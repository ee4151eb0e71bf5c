import Rollout.Proofs.Convergence
import Rollout.Proofs.Guards

/-! Cancellation. A pass whose context is done after some calls is the pass with a live context cut
off there: it makes the same calls up to that point, and names the one that it does not make. -/

set_option autoImplicit false

namespace Rollout

variable {State α : Type}

/-- The world of a client, for a context that is looked at as the calls go by: its answer depends
on how many were made. -/
def Client.watched (client : Client State) (said : Nat → Option StopReason) :
    World (State × Nat) where
  stopped? state := said state.2
  answer call state :=
    let answered := client call state.1
    (answered.1, answered.2, state.2 + 1)

namespace Run

variable {Other : Type} {run : Run State α} {live : Run Other α}

/-- The run is the live one, or that one cut off after so many calls with a word on the next. -/
def CutAt (run : Run State α) (live : Run Other α) (calls : Nat) (reason? : Option StopReason) :
    Prop :=
  run.exchanges = live.exchanges.take calls ∧
    match live.calls[calls]? with
    | some next =>
      ∃ step reason, next.Step step ∧ reason? = some reason ∧
        run.result = .error (.cancelled step reason)
    | none => run.result = live.result

theorem CutAt.after {calls : Nat} {reason? : Option StopReason}
    (cut : run.CutAt live calls reason?) (call : Call) (reply : call.Reply) :
    (run.after (.called call reply)).CutAt (live.after (.called call reply)) (calls + 1)
      reason? := by
  obtain ⟨exchanges, outcome⟩ := cut
  constructor
  · change (⟨call, reply⟩ :: run.exchanges : List Exchange) = _
    rw [exchanges]
    rfl
  · exact outcome

end Run

theorem Dialogue.Guarded.run_watched {dialogue : Dialogue α} (guarded : dialogue.Guarded)
    (client : Client State) {said : Nat → Option StopReason} {limit : Nat}
    (done : ∀ calls, said calls ≠ none ↔ limit ≤ calls) (state : State) {made : Nat}
    (early : made ≤ limit) :
    (dialogue.run (client.watched said) (state, made)).CutAt (dialogue.run client.live state)
      (limit - made) (said limit) := by
  induction guarded generalizing state made with
  | done result => exact ⟨List.take_nil.symm, rfl⟩
  | note event later ih => exact ih state early
  | @call operation call next step later ih =>
      cases asked : said made with
      | some reason =>
          have now : limit = made := by
            have late := (done made).mp (by simp [asked])
            omega
          subst now
          simp only [run, Client.watched, Client.live, asked, Run.CutAt, Nat.sub_self]
          exact ⟨rfl, operation, reason, step, rfl, rfl⟩
      | none =>
          have soon : made + 1 ≤ limit := by
            have live : ¬ limit ≤ made := by
              rw [← done made, asked]
              simp
            omega
          have remaining : limit - made = limit - (made + 1) + 1 := by omega
          have later := ih (client call state).1 (client call state).2 soon
          simp only [run, Client.watched, asked, remaining]
          exact later.after call (client call state).1

theorem StopReason.of?_eq_some {cancelled : Bool} {deadline? : Option Nat} {now : Nat}
    {reason : StopReason} (done : StopReason.of? cancelled deadline? now = some reason) :
    reason = if cancelled then .cancelled else .deadlineExceeded := by
  unfold StopReason.of? at done
  cases cancelled with
  | true =>
      cases done
      rfl
  | false =>
      simp only [Bool.false_eq_true, if_false] at done ⊢
      split at done
      · split at done
        · exact (Option.some.inj done).symm
        · cases done
      · cases done

namespace Pass

/-- A pass whose context is done once so many calls were made, be it cancelled or past its deadline,
is the live pass up to there. If the live pass goes on, the pass is aborted and names the step that
would have made the next call; if not, it has the result of the live pass. -/
theorem cut_by_context (pass : Pass) (client : Client State) (state : State) (context : Context)
    (contexts : Nat → Contexts) (now : Nat → Nat) (limit : Nat)
    (done : ∀ calls, (contexts calls).stopReason? context (now calls) ≠ none ↔ limit ≤ calls) :
    let live := pass.run context.request client.live state
    let cut := pass.run context.request
      (client.watched fun calls => (contexts calls).stopReason? context (now calls)) (state, 0)
    cut.exchanges = live.exchanges.take limit ∧
      (∀ next, live.calls[limit]? = some next → ∃ step, next.Step step ∧
        cut.result = .error (.cancelled step
          (if (contexts limit).cancelled.contains context.family then .cancelled
          else .deadlineExceeded))) ∧
      (live.calls.length ≤ limit → cut.result = live.result) := by
  intro live cut
  obtain ⟨exchanges, outcome⟩ :=
    pass.guarded_dialogue.run_watched client done state (Nat.zero_le limit)
  have calls : live.calls = (pass.dialogue.run client.live state).calls := by
    rw [Run.calls_eq, Run.calls_eq, exchanges_run]
  rw [Nat.sub_zero] at exchanges outcome
  rw [← calls] at outcome
  refine ⟨?_, ?_, ?_⟩
  · rw [exchanges_run, exchanges_run]
    exact exchanges
  · intro next found
    rw [found] at outcome
    obtain ⟨step, reason, its, said, failed⟩ := outcome
    rw [StopReason.of?_eq_some said] at failed
    exact ⟨step, its, failed⟩
  · intro ended
    rw [List.getElem?_eq_none ended] at outcome
    exact outcome

theorem handover_cut_before_update :
    let context : Context := { request := { requestId := "r" }, family := 0, deadline? := some 6 }
    let contexts (calls : Nat) : Contexts := if calls < 4 then {} else { cancelled := [0] }
    let said (calls : Nat) := (contexts calls).stopReason? context calls
    let cut := handover.run context.request
      (Client.watched (fun call store => MemoryStore.answer store call) said) (handoverStore, 0)
    (∀ calls, said calls ≠ none ↔ 4 ≤ calls) ∧ cut.exchanges.length = 4 ∧
      cut.result = .error (.cancelled "update_scope" .cancelled) := by
  intro context contexts said cut
  have done (calls : Nat) : said calls ≠ none ↔ 4 ≤ calls := by
    by_cases live : calls < 4
    · have early : ¬ 6 ≤ calls := by omega
      simp [said, contexts, context, Contexts.stopReason?, StopReason.of?, live, early]
    · have late : 4 ≤ calls := by omega
      simp [said, contexts, context, Contexts.stopReason?, StopReason.of?, live, late]
  obtain ⟨exchanges, aborted, -⟩ := cut_by_context handover
    (fun call store => MemoryStore.answer store call) handoverStore context contexts
    (fun calls => calls) 4 done
  obtain ⟨step, its, failed⟩ := aborted _ rfl
  cases its
  exact ⟨done, (congrArg List.length exchanges).trans rfl, failed⟩

end Pass

end Rollout
