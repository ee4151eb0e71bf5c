import Rollout.Proofs.Tasks

/-! The course of a pass against any client, for a context that stays live. All that can come of
one task is said once; a pass goes through its tasks in order, as far as they succeed. -/

set_option autoImplicit false

namespace Rollout

open Enrolment (revision)

/-- A store that may answer as it likes, and whose answers have nothing to do with the context. -/
abbrev Client (State : Type) := (call : Call) → State → call.Reply × State

/-- The world of a client, for a context that is never done. -/
def Client.live {State : Type} (client : Client State) : World State where
  stopped? _ := none
  answer := client

theorem Run.exchanges_append {State α : Type} (result : Except ApplyError α)
    (before after : List Entry) (state : State) :
    (⟨result, before ++ after, state⟩ : Run State α).exchanges =
      (⟨result, before, state⟩ : Run State α).exchanges ++
        (⟨result, after, state⟩ : Run State α).exchanges :=
  List.filterMap_append

namespace Dialogue

variable {State α : Type} {client : Client State} {call : Call} {state middle : State}

theorem run_ask {reply : call.Reply} (answered : client call state = (reply, middle))
    (next : call.Reply → Dialogue α) :
    (Dialogue.ask call next).run client.live state =
      ((next reply).run client.live middle).after (.called call reply) := by
  simp only [run, Client.live, answered]

theorem run_heed (operation : String) (next : Dialogue α) :
    (Dialogue.heed operation next).run client.live state = next.run client.live state :=
  rfl

theorem run_call_answered {answer : call.Answer}
    (answered : client call state = (.ok answer, middle)) (refused : StoreError → ApplyError)
    (next : call.Answer → Dialogue α) :
    ((Dialogue.call call refused).bind next).run client.live state =
      ((next answer).run client.live middle).after (.called call (.ok answer)) :=
  run_ask answered _

theorem run_call_refused {refusal : StoreError}
    (answered : client call state = (.error refusal, middle)) (refused : StoreError → ApplyError)
    (next : call.Answer → Dialogue α) :
    ((Dialogue.call call refused).bind next).run client.live state =
      ⟨.error (refused refusal), [.called call (.error refusal)], middle⟩ :=
  run_ask answered _

theorem run_eq_live_of_uncut {world : World State} {dialogue : Dialogue α}
    (uncut : ∀ operation reason,
      (dialogue.run world state).result ≠ .error (.cancelled operation reason)) :
    dialogue.run world state = dialogue.run (Client.live world.answer) state := by
  induction dialogue generalizing state with
  | done result => rfl
  | note event next ih => exact congrArg (Run.after (.noted event)) (ih uncut)
  | heed operation next ih =>
      simp only [run] at uncut ⊢
      cases stopped : world.stopped? state with
      | some reason =>
          rw [stopped] at uncut
          exact absurd rfl (uncut operation reason)
      | none =>
          rw [stopped] at uncut
          exact ih uncut
  | ask call next ih => exact congrArg (Run.after _) (ih _ uncut)

theorem run_eq_live {world : World State} {dialogue : Dialogue α} {value : α}
    (succeeded : (dialogue.run world state).result = .ok value) :
    dialogue.run world state = dialogue.run (Client.live world.answer) state := by
  refine run_eq_live_of_uncut ?_
  intro operation reason impossible
  rw [succeeded] at impossible
  cases impossible

/-- Whenever the context is done, what was said until then is as in a context that stays live. -/
theorem exchanges_prefix_live (world : World State) (dialogue : Dialogue α) (state : State) :
    (dialogue.run world state).exchanges <+:
      (dialogue.run (Client.live world.answer) state).exchanges := by
  induction dialogue generalizing state with
  | done result => exact List.prefix_rfl
  | note event next ih => exact ih state
  | heed operation next ih =>
      simp only [run]
      cases world.stopped? state with
      | some reason => exact List.nil_prefix
      | none => exact ih state
  | ask call next ih => exact List.cons_prefix_cons.mpr ⟨rfl, ih _ _⟩

end Dialogue

namespace Pass

/-- What may be said over a task, and with what result. -/
inductive Yields (pass : Pass) : Task → List Exchange → Except ApplyError Unit → Prop where
  | presented (workload : Workload) (reply : Except StoreError Unit) :
      Yields pass (.present workload) [⟨.upsert .workload workload.body pass.options, reply⟩]
        (reply.mapError fun refusal => .applyWorkload workload.body.name refusal)
  | untyped (workload : Reference) (body : Resource) (refusal : StoreError) :
      Yields pass (.equip workload body)
        [⟨.traitDefinition body.apiVersion body.kind, .error refusal⟩]
        (.error (.getTraitDefinition body.apiVersion body.kind body.name refusal))
  | untold (workload : Reference) (body : Resource) (traitType : TraitType) {error : PathError}
      (failed : (body.inject traitType.injectionPath? workload).failure = some error) :
      Yields pass (.equip workload body)
        [⟨.traitDefinition body.apiVersion body.kind, .ok traitType⟩]
        (.error (.applyTrait body.apiVersion body.kind body.name (.attribute error)))
  | equipped (workload : Reference) (body : Resource) (traitType : TraitType)
      (reply : Except StoreError Unit)
      (told : (body.inject traitType.injectionPath? workload).failure = none) :
      Yields pass (.equip workload body)
        [⟨.traitDefinition body.apiVersion body.kind, .ok traitType⟩,
          ⟨.upsert .trait (body.inject traitType.injectionPath? workload).resource pass.options,
            reply⟩]
        (reply.mapError fun refusal =>
          .applyTrait body.apiVersion body.kind body.name (.store refusal))
  | unfetched (visit : Enrolment.Visit) (refusal : StoreError)
      (minded : visit.tolerates pass.config refusal = false) :
      Yields pass (.visit visit) [⟨.get visit.key, .error refusal⟩]
        (.error (.getScope visit.key visit.member refusal))
  | gone (visit : Enrolment.Visit) (refusal : StoreError)
      (tolerated : visit.tolerates pass.config refusal = true) :
      Yields pass (.visit visit) [⟨.get visit.key, .error refusal⟩] (.ok ())
  | unrevised (visit : Enrolment.Visit) (scope : Resource) {error : PathError}
      (failed : revision pass.config visit.change scope = .error error) :
      Yields pass (.visit visit) [⟨.get visit.key, .ok scope⟩]
        (.error (.updateScope visit.key visit.member (.attribute error)))
  | settled (visit : Enrolment.Visit) (scope : Resource)
      (same : revision pass.config visit.change scope = .ok none) :
      Yields pass (.visit visit) [⟨.get visit.key, .ok scope⟩] (.ok ())
  | revised (visit : Enrolment.Visit) (scope : Resource) {body : Resource}
      (reply : Except StoreError Unit)
      (made : revision pass.config visit.change scope = .ok (some body)) :
      Yields pass (.visit visit) [⟨.get visit.key, .ok scope⟩, ⟨.update .scope body, reply⟩]
        (reply.mapError fun refusal => .updateScope visit.key visit.member (.store refusal))

variable {State : Type} (pass : Pass) (client : Client State)

theorem yields_applyTrait (workload : Reference) (body : Resource) (state : State) :
    pass.Yields (.equip workload body)
      ((pass.applyTrait workload body).run client.live state).exchanges
      ((pass.applyTrait workload body).run client.live state).result := by
  rw [applyTrait_eq, Dialogue.run_heed]
  cases known : client (.traitDefinition body.apiVersion body.kind) state with
  | mk reply middle =>
      cases reply with
      | error refusal =>
          rw [Dialogue.run_call_refused known]
          exact .untyped workload body refusal
      | ok traitType =>
          rw [Dialogue.run_call_answered known, equip]
          cases injected : (body.inject traitType.injectionPath? workload).failure with
          | some error => exact .untold workload body traitType injected
          | none =>
              cases upserted : client (.upsert .trait
                (body.inject traitType.injectionPath? workload).resource pass.options) middle with
              | mk reply last =>
                  cases reply with
                  | error refusal =>
                      simp only [Dialogue.run_heed, Dialogue.run_call_refused upserted]
                      exact .equipped workload body traitType (.error refusal) injected
                  | ok answer =>
                      simp only [Dialogue.run_heed, Dialogue.run_call_answered upserted]
                      exact .equipped workload body traitType (.ok ()) injected

theorem yields_visit (visit : Enrolment.Visit) (state : State) :
    pass.Yields (.visit visit) ((visit.dialogue pass.config).run client.live state).exchanges
      ((visit.dialogue pass.config).run client.live state).result := by
  rw [visit.dialogue_eq, Enrolment.Visit.attempt, Dialogue.ignore, Dialogue.bind, Dialogue.bind,
    Dialogue.run_heed]
  cases fetched : client (.get visit.key) state with
  | mk reply middle =>
      rw [Dialogue.run_ask fetched]
      cases reply with
      | error refusal =>
          rw [Enrolment.Visit.react]
          cases tolerated : visit.tolerates pass.config refusal with
          | true => exact .gone visit refusal tolerated
          | false => exact .unfetched visit refusal tolerated
      | ok scope =>
          rw [Enrolment.Visit.react, Enrolment.edit_eq]
          cases made : revision pass.config visit.change scope with
          | error error => exact .unrevised visit scope made
          | ok outcome =>
              cases outcome with
              | none => exact .settled visit scope made
              | some body =>
                  simp only [Dialogue.bind, Dialogue.bind_assoc, Dialogue.run_heed]
                  cases updated : client (.update .scope body) middle with
                  | mk reply last =>
                      cases reply with
                      | error refusal =>
                          rw [Dialogue.run_call_refused updated]
                          exact .revised visit scope (.error refusal) made
                      | ok answer =>
                          rw [Dialogue.run_call_answered updated]
                          exact .revised visit scope (.ok ()) made

theorem yields_perform (task : Task) (state : State) :
    pass.Yields task ((pass.perform task).run client.live state).exchanges
      ((pass.perform task).run client.live state).result := by
  cases task with
  | present workload => exact .presented workload _
  | equip workload body => exact pass.yields_applyTrait client workload body state
  | visit visit => exact pass.yields_visit client visit state

/-- What may be said over tasks that are taken in order until one fails, and with what result. -/
inductive Course (pass : Pass) : List Task → List Exchange → Except ApplyError Unit → Prop where
  | finished : Course pass [] [] (.ok ())
  | went {task : Task} {rest : List Task} {talk later : List Exchange}
      {result : Except ApplyError Unit} (here : pass.Yields task talk (.ok ()))
      (onward : Course pass rest later result) : Course pass (task :: rest) (talk ++ later) result
  | failed {task : Task} {talk : List Exchange} {error : ApplyError} (rest : List Task)
      (here : pass.Yields task talk (.error error)) :
      Course pass (task :: rest) talk (.error error)

theorem course_each (tasks : List Task) (state : State) :
    pass.Course tasks ((Dialogue.each pass.perform tasks).run client.live state).exchanges
      ((Dialogue.each pass.perform tasks).run client.live state).result := by
  induction tasks generalizing state with
  | nil => exact .finished
  | cons task rest ih =>
      have here := pass.yields_perform client task state
      rw [Dialogue.each, Dialogue.run_bind, Run.andThen]
      cases result : ((pass.perform task).run client.live state).result with
      | error error =>
          rw [result] at here
          exact .failed rest here
      | ok value =>
          rw [result] at here
          simp only [Run.exchanges_append]
          exact .went here (ih _)

theorem course_run (request : Request) (state : State) :
    pass.Course pass.tasks (pass.run request client.live state).exchanges
      (pass.run request client.live state).result := by
  obtain ⟨result, exchanges, -⟩ := pass.run_tasks request client.live state
  rw [result, exchanges]
  exact pass.course_each client pass.tasks state

theorem run_eq_live_of_uncut {pass : Pass} {request : Request} {world : World State}
    {state : State} (uncut : ∀ operation reason,
      (pass.run request world state).result ≠ .error (.cancelled operation reason)) :
    pass.run request world state = pass.run request (Client.live world.answer) state := by
  have live : pass.dialogue.run world state =
      pass.dialogue.run (Client.live world.answer) state := Dialogue.run_eq_live_of_uncut uncut
  simp only [run, live]

theorem run_eq_live {pass : Pass} {request : Request} {world : World State} {state : State}
    (succeeded : (pass.run request world state).result = .ok ()) :
    pass.run request world state = pass.run request (Client.live world.answer) state := by
  refine run_eq_live_of_uncut ?_
  intro operation reason impossible
  rw [succeeded] at impossible
  cases impossible

theorem exchanges_prefix_live (pass : Pass) (request : Request) (world : World State)
    (state : State) :
    (pass.run request world state).exchanges <+:
      (pass.run request (Client.live world.answer) state).exchanges := by
  rw [exchanges_run, exchanges_run]
  exact Dialogue.exchanges_prefix_live world pass.dialogue state

end Pass

end Rollout
