import Rollout.Proofs.Course

/-! Guards. Each call of a pass stands directly behind a look at the context, which names the step
that makes the call, and the context is looked at nowhere else. -/

set_option autoImplicit false

namespace Rollout

inductive Call.Step : Call → String → Prop where
  | workload (body : Resource) (options : List ApplyOption) :
      Step (.upsert .workload body options) "apply_workload"
  | traitType (apiVersion kind : String) :
      Step (.traitDefinition apiVersion kind) "get_trait_definition"
  | trait (body : Resource) (options : List ApplyOption) :
      Step (.upsert .trait body options) "apply_trait"
  | fetch (key : Reference) : Step (.get key) "get_scope"
  | update (body : Resource) : Step (.update .scope body) "update_scope"

namespace Dialogue

variable {State α β : Type}

/-- Looks at the context and calls go in pairs, one directly behind the other and for its step. -/
inductive Guarded : Dialogue α → Prop where
  | done (result : Except ApplyError α) : Guarded (.done result)
  | note (event : Event) {next : Dialogue α} (later : Guarded next) : Guarded (.note event next)
  | call {operation : String} {call : Call} {next : call.Reply → Dialogue α}
      (step : call.Step operation) (later : ∀ reply, Guarded (next reply)) :
      Guarded (.heed operation (.ask call next))

theorem Guarded.bind {first : Dialogue α} {second : α → Dialogue β} (one : first.Guarded)
    (two : ∀ value, (second value).Guarded) : (first.bind second).Guarded := by
  induction one with
  | done result =>
      cases result with
      | ok value => exact two value
      | error error => exact .done _
  | note event later ih => exact .note event ih
  | call step later ih => exact .call step ih

theorem guarded_tell (event : Event) : (Dialogue.tell event).Guarded := .note event (.done _)

theorem guarded_call {operation : String} {call : Call} (step : call.Step operation)
    (refused : StoreError → ApplyError) {next : call.Answer → Dialogue α}
    (later : ∀ answer, (next answer).Guarded) :
    (Dialogue.heed operation ((Dialogue.call call refused).bind next)).Guarded := by
  refine .call step ?_
  intro reply
  cases reply with
  | ok answer => exact later answer
  | error refusal => exact .done _

theorem guarded_each {step : α → Dialogue Unit} (each : ∀ item, (step item).Guarded)
    (items : List α) : (Dialogue.each step items).Guarded := by
  induction items with
  | nil => exact .done _
  | cons item rest ih => exact (each item).bind fun _ => ih

theorem guarded_select {step : α → Dialogue Bool} (each : ∀ item, (step item).Guarded)
    (items : List α) : (Dialogue.select step items).Guarded := by
  induction items with
  | nil => exact .done _
  | cons item rest ih => exact (each item).bind fun _ => ih.bind fun _ => .done _

/-- A run that says all that would be said in a context that stays live was not stopped. -/
theorem Guarded.run_eq_live {dialogue : Dialogue α} (guarded : dialogue.Guarded)
    {world : World State} {state : State}
    (whole : (dialogue.run world state).exchanges =
      (dialogue.run (Client.live world.answer) state).exchanges) :
    dialogue.run world state = dialogue.run (Client.live world.answer) state := by
  induction guarded generalizing state with
  | done result => rfl
  | note event later ih => exact congrArg (Run.after (.noted event)) (ih whole)
  | call step later ih =>
      simp only [run] at whole ⊢
      cases stopped : world.stopped? state with
      | some reason =>
          rw [stopped] at whole
          cases whole
      | none =>
          rw [stopped] at whole
          exact congrArg (Run.after _) (ih _ (List.cons.inj whole).2)

end Dialogue

open Dialogue (guarded_tell guarded_call guarded_each guarded_select)

namespace Enrolment

theorem Visit.guarded_attempt (config : Config) (visit : Visit) :
    (visit.attempt config).Guarded := by
  refine .call (.fetch visit.key) ?_
  intro reply
  cases reply with
  | error refusal =>
      rw [react]
      cases visit.tolerates config refusal with
      | true => exact .note _ (.done _)
      | false => exact .done _
  | ok scope =>
      rw [react, edit_eq]
      cases revision config visit.change scope with
      | error error => exact .done _
      | ok outcome =>
          cases outcome with
          | none => exact .note _ (.done _)
          | some body => exact guarded_call (.update body) _ fun _ => .done _

theorem guarded_reconcile (config : Config) (member : Reference) (desired : List Resource)
    (recorded : List Reference) : (reconcile config member desired recorded).Guarded := by
  have joining (key : Reference) : (add config member key).Guarded := by
    rw [add_eq]
    exact Visit.guarded_attempt config ⟨true, member, key⟩
  have leaving (key : Reference) : (remove config member key).Guarded := by
    rw [remove_eq]
    exact Visit.guarded_attempt config ⟨false, member, key⟩
  exact (guarded_select joining _).bind fun _ => (guarded_select leaving _).bind fun _ => .done _

end Enrolment

namespace Pass

variable (pass : Pass)

theorem guarded_applyTrait (workload : Reference) (body : Resource) :
    (pass.applyTrait workload body).Guarded := by
  rw [applyTrait_eq]
  refine guarded_call (.traitType body.apiVersion body.kind) _ ?_
  intro traitType
  rw [equip]
  cases (body.inject traitType.injectionPath? workload).failure with
  | some error => exact .done _
  | none => exact guarded_call (.trait _ _) _ fun _ => guarded_tell _

theorem guarded_applyWorkload (workload : Workload) : (pass.applyWorkload workload).Guarded := by
  refine .note _ (guarded_call (.workload workload.body pass.options) _ fun _ => ?_)
  refine (guarded_each (pass.guarded_applyTrait _) workload.traits).bind fun _ => ?_
  exact (Enrolment.guarded_reconcile _ _ _ _).bind fun _ => guarded_tell _

theorem guarded_dereferenceOrphan (status : WorkloadStatus) :
    (pass.dereferenceOrphan status).Guarded :=
  (Enrolment.guarded_reconcile _ _ _ _).bind fun _ => guarded_tell _

/-- In a pass each call stands directly behind the look at the context for its own step. -/
theorem guarded_dialogue : pass.dialogue.Guarded := by
  rw [dialogue_eq]
  exact (guarded_each pass.guarded_applyWorkload _).bind fun _ =>
    guarded_each pass.guarded_dereferenceOrphan _

end Pass

end Rollout
