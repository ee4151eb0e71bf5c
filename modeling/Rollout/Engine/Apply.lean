import Rollout.Engine.Enrolment
import Rollout.Status

/-! An apply pass: brings a store in line with the desired workloads. Workloads are taken in
order; each is upserted before its traits, and its traits before its scope memberships. The
first failure ends the pass. -/

set_option autoImplicit false

namespace Rollout

structure Pass where
  config : Config := {}
  options : List ApplyOption := []
  recorded : List WorkloadStatus := []
  workloads : List Workload := []
  deriving DecidableEq

namespace Pass

/-- Upserts a trait that is told about its workload where its type wants that. -/
def applyTrait (pass : Pass) (workload : Reference) (body : Resource) : Dialogue Unit := do
  .check "get_trait_definition"
  let traitType ← .call (.traitDefinition body.apiVersion body.kind) fun refusal =>
    .getTraitDefinition body.apiVersion body.kind body.name refusal
  let injected := body.inject traitType.injectionPath? workload
  match injected.failure with
  | some error => .fail (.applyTrait body.apiVersion body.kind body.name (.attribute error))
  | none =>
    .check "apply_trait"
    .call (.upsert .trait injected.resource pass.options) fun refusal =>
      .applyTrait body.apiVersion body.kind body.name (.store refusal)
    .tell (.traitApplied workload body.name traitType.injectionPath?.isSome)

def recordedScopes (pass : Pass) (workload : Reference) : List Reference :=
  match WorkloadStatus.find? pass.recorded workload with
  | some status => status.scopeReferences
  | none => []

def applyWorkload (pass : Pass) (workload : Workload) : Dialogue Unit := do
  let reference := workload.reference
  .tell (.workloadStarted reference workload.traits.length workload.scopes.length)
  .check "apply_workload"
  .call (.upsert .workload workload.body pass.options) fun refusal =>
    .applyWorkload workload.body.name refusal
  .each (pass.applyTrait reference) workload.traits
  let changes ← Enrolment.reconcile pass.config reference workload.scopes
    (pass.recordedScopes reference)
  .tell (.workloadEnded reference changes.added.length changes.removed.length)

/-- All workloads of a pass share the namespace of the first that has one. -/
def space? (pass : Pass) : Option String :=
  pass.workloads.findSome? fun workload => workload.body.space?

/-- A recorded workload that is not desired any more and was a member of a scope. -/
def IsOrphan (pass : Pass) (status : WorkloadStatus) : Prop :=
  status.scopes ≠ [] ∧ ∀ workload ∈ pass.workloads, ¬ status.reference.Matches workload.reference

instance (pass : Pass) (status : WorkloadStatus) : Decidable (pass.IsOrphan status) := by
  unfold IsOrphan; infer_instance

def orphan (pass : Pass) (status : WorkloadStatus) : Reference :=
  status.reference.inheritNamespace pass.space?

def dereferenceOrphan (pass : Pass) (status : WorkloadStatus) : Dialogue Unit := do
  let orphan := pass.orphan status
  let changes ← Enrolment.reconcile pass.config orphan [] status.scopeReferences
  .tell (.orphanDereferenced orphan changes.removed.length)

def dereferenceOrphans (pass : Pass) : Dialogue Unit :=
  .each pass.dereferenceOrphan (pass.recorded.filter fun status => pass.IsOrphan status)

def dialogue (pass : Pass) : Dialogue Unit := do
  .each pass.applyWorkload pass.workloads
  if pass.config.dereferenceOrphanedWorkloads then pass.dereferenceOrphans

def closing (request : Request) : Except ApplyError Unit → Event
  | .ok _ => .applyEnded request
  | .error error => .applyFailed request error

/-- The pass as it runs in a world, framed by its opening and its closing event. -/
def run {State : Type} (pass : Pass) (request : Request) (world : World State) (state : State) :
    Run State Unit :=
  let body := pass.dialogue.run world state
  { body with
    transcript := .noted (.applyStarted request pass.workloads.length) :: body.transcript ++
      [.noted (closing request body.result)] }

end Pass

end Rollout
