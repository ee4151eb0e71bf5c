import Rollout.Engine.Site

/-! Worlds made of one store: that of a store which nothing disturbs, and that of a run which is cut
off at one call. Both are what a site shows that keeps all in its main store. -/

set_option autoImplicit false

namespace Rollout

/-- How a run is cut off at a call: the call is refused, or the context is done from then on. -/
inductive Cut where
  | refused (error : StoreError)
  | stopped (reason : StopReason)

namespace MemoryStore

def world : World MemoryStore where
  stopped? _ := none
  answer call store := store.answer call

/-- The world of a store whose runs are cut off at one call; calls are counted from zero. -/
def cutWorld (position : Nat) (cut : Cut) : World (MemoryStore × Nat) where
  stopped? state :=
    match cut with
    | .refused _ => none
    | .stopped reason => if position ≤ state.2 then some reason else none
  answer call state :=
    match cut with
    | .refused error =>
      if state.2 = position then (.error error, state.1, state.2 + 1)
      else ((state.1.answer call).1, (state.1.answer call).2, state.2 + 1)
    | .stopped _ => ((state.1.answer call).1, (state.1.answer call).2, state.2 + 1)

end MemoryStore

/-- From related states the worlds stop together, answer alike and come to related states. -/
structure World.Mirrors {State Other : Type} (world : World State) (other : World Other)
    (related : State → Other → Prop) : Prop where
  stops : ∀ state its, related state its → world.stopped? state = other.stopped? its
  replies : ∀ call state its, related state its →
    (world.answer call state).1 = (other.answer call its).1
  states : ∀ call state its, related state its →
    related (world.answer call state).2 (other.answer call its).2

variable {State Other α : Type} {world : World State} {other : World Other}
  {related : State → Other → Prop}

theorem World.Mirrors.of_answers
    (stops : ∀ state its, related state its → world.stopped? state = other.stopped? its)
    (answers : ∀ call state its, related state its →
      (world.answer call state).1 = (other.answer call its).1 ∧
        related (world.answer call state).2 (other.answer call its).2) :
    world.Mirrors other related :=
  ⟨stops, fun call state its start => (answers call state its start).1,
    fun call state its start => (answers call state its start).2⟩

theorem Dialogue.run_mirrors (mirrors : world.Mirrors other related) (dialogue : Dialogue α)
    {state : State} {its : Other} (start : related state its) :
    (dialogue.run world state).result = (dialogue.run other its).result ∧
      (dialogue.run world state).transcript = (dialogue.run other its).transcript ∧
        related (dialogue.run world state).state (dialogue.run other its).state := by
  induction dialogue generalizing state its with
  | done result => exact ⟨rfl, rfl, start⟩
  | note event next ih =>
      obtain ⟨result, transcript, left⟩ := ih start
      exact ⟨result, congrArg (List.cons _) transcript, left⟩
  | heed operation next ih =>
      simp only [run, mirrors.stops state its start]
      cases other.stopped? its with
      | some reason => exact ⟨rfl, rfl, start⟩
      | none => exact ih start
  | ask call next ih =>
      have reply := mirrors.replies call state its start
      obtain ⟨result, transcript, left⟩ :=
        ih (world.answer call state).1 (mirrors.states call state its start)
      simp only [run]
      rw [reply] at result transcript left ⊢
      exact ⟨result, congrArg (List.cons _) transcript, left⟩

theorem Pass.run_mirrors (mirrors : world.Mirrors other related) (pass : Pass) (request : Request)
    {state : State} {its : Other} (start : related state its) :
    (pass.run request world state).result = (pass.run request other its).result ∧
      (pass.run request world state).transcript = (pass.run request other its).transcript ∧
        related (pass.run request world state).state (pass.run request other its).state := by
  obtain ⟨result, transcript, left⟩ := Dialogue.run_mirrors mirrors pass.dialogue start
  refine ⟨result, ?_, left⟩
  simp only [run, result, transcript]

namespace Site

/-- The site keeps all in the one store, and so many calls were made. -/
def Holds (site : Site) (cancelled : Bool) (state : MemoryStore × Nat) : Prop :=
  site = { stores := { main := state.1 }, cancelled := cancelled, calls := state.2 }

theorem mirrors_world (now : Nat) :
    (Site.world [] none now).Mirrors MemoryStore.world fun site store =>
      ∃ calls, site.Holds false (store, calls) := by
  refine .of_answers ?_ ?_
  · intro site store holds
    obtain ⟨calls, rfl⟩ := holds
    rfl
  · intro call site store holds
    obtain ⟨calls, rfl⟩ := holds
    cases call <;> exact ⟨rfl, calls + 1, rfl⟩

theorem mirrors_refused (position : Nat) (error : StoreError) (now : Nat) :
    (Site.world [{ position := position, error? := some error }] none now).Mirrors
      (MemoryStore.cutWorld position (.refused error)) fun site state =>
        site.Holds false state := by
  refine .of_answers ?_ ?_
  · intro site state holds
    subst holds
    rfl
  · intro call site state holds
    subst holds
    by_cases here : position = state.2
    · subst here
      simp [world, answer, MemoryStore.cutWorld, Fault.reply?, Holds]
    · have elsewhere : ¬ state.2 = position := fun same => here same.symm
      cases call <;>
        simp [world, answer, MemoryStore.cutWorld, Holds, here, elsewhere, Stores.answer]

theorem mirrors_stopped (position now : Nat) :
    (Site.world [{ position := position - 1, cancels := true }] none now).Mirrors
      (MemoryStore.cutWorld position (.stopped .cancelled)) fun site state =>
        site.Holds (decide (position ≤ state.2)) state := by
  refine .of_answers ?_ ?_
  · intro site state holds
    subst holds
    by_cases passed : position ≤ state.2
    · simp [world, MemoryStore.cutWorld, StopReason.of?, passed]
    · simp [world, MemoryStore.cutWorld, StopReason.of?, passed]
  · intro call site state holds
    subst holds
    by_cases here : position - 1 = state.2
    · have passed : position ≤ state.2 + 1 := by omega
      cases call <;>
        simp [world, answer, MemoryStore.cutWorld, Fault.reply?, Stores.answer, Holds, here,
          passed]
    · have same : position ≤ state.2 + 1 ↔ position ≤ state.2 := by omega
      cases call <;>
        simp [world, answer, MemoryStore.cutWorld, Stores.answer, Holds, here, same]

end Site

namespace Pass

variable (pass : Pass) (request : Request) (store : MemoryStore)

theorem run_site (now : Nat) :
    let run := pass.run request MemoryStore.world store
    let site := pass.run request (Site.world [] none now) { stores := { main := store } }
    site.result = run.result ∧ site.transcript = run.transcript ∧
      site.state.stores = { main := run.state } := by
  have start : ∃ calls, Site.Holds { stores := { main := store } } false (store, calls) := ⟨0, rfl⟩
  obtain ⟨result, transcript, calls, holds⟩ :=
    Pass.run_mirrors (Site.mirrors_world now) pass request start
  refine ⟨result, transcript, ?_⟩
  rw [Site.Holds] at holds
  rw [holds]

theorem run_site_cut {faults : List Fault} {position now : Nat} {cut : Cut}
    (cancelled : Nat → Bool)
    (mirrors : (Site.world faults none now).Mirrors (MemoryStore.cutWorld position cut)
      fun site state => site.Holds (cancelled state.2) state) :
    let run := pass.run request (MemoryStore.cutWorld position cut) (store, 0)
    let site := pass.run request (Site.world faults none now)
      { stores := { main := store }, cancelled := cancelled 0 }
    site.result = run.result ∧ site.transcript = run.transcript ∧
      site.state.stores = { main := run.state.1 } := by
  have start : Site.Holds { stores := { main := store }, cancelled := cancelled 0 } (cancelled 0)
      (store, 0) := rfl
  obtain ⟨result, transcript, holds⟩ := Pass.run_mirrors mirrors pass request start
  refine ⟨result, transcript, ?_⟩
  rw [Site.Holds] at holds
  rw [holds]

/-- A pass that is cut off by a refusal is the pass at a site with that error planted. -/
theorem run_site_refused (position : Nat) (error : StoreError) (now : Nat) :
    let run := pass.run request (MemoryStore.cutWorld position (.refused error)) (store, 0)
    let site := pass.run request
      (Site.world [{ position := position, error? := some error }] none now)
      { stores := { main := store } }
    site.result = run.result ∧ site.transcript = run.transcript ∧
      site.state.stores = { main := run.state.1 } :=
  pass.run_site_cut request store (fun _ => false) (Site.mirrors_refused position error now)

/-- A pass that is cut off by its context is the pass at a site where that is cancelled by the call
before, or from the outset. -/
theorem run_site_stopped (position now : Nat) :
    let run := pass.run request (MemoryStore.cutWorld position (.stopped .cancelled)) (store, 0)
    let site := pass.run request
      (Site.world [{ position := position - 1, cancels := true }] none now)
      { stores := { main := store }, cancelled := position = 0 }
    site.result = run.result ∧ site.transcript = run.transcript ∧
      site.state.stores = { main := run.state.1 } := by
  have cut := pass.run_site_cut request store (fun calls => decide (position ≤ calls))
    (Site.mirrors_stopped position now)
  simp only [Nat.le_zero] at cut
  exact cut

end Pass

end Rollout
