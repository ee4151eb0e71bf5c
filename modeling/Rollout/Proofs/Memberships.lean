import Rollout.Proofs.Convergence
import Rollout.Proofs.Schedule

/-! What becomes of recorded memberships. The first status that may be a workload's own is read with
the workload, and one that may be nobody's is read as an orphan's. A pass that succeeds has then
looked at each scope recorded there which may not be desired any more. Of two statuses that may be
one workload's own the second is read by neither. -/

set_option autoImplicit false

namespace Rollout

open Enrolment (Visit)

namespace Pass

variable {pass : Pass} {talk : List Exchange}

def Fetches (pass : Pass) (talk : List Exchange) (visit : Visit) : Prop :=
  ∃ earlier later before reply after, pass.tasks = earlier ++ .visit visit :: later ∧
    InTurn pass.Part earlier before ∧ talk = before ++ ⟨.get visit.key, reply⟩ :: after

/-- The scope with the key is fetched for the member to leave it. For a member without a namespace
it may be fetched under another key that matches this one. -/
def Leaves (pass : Pass) (talk : List Exchange) (member key : Reference) : Prop :=
  ∃ visit, visit.joins = false ∧ visit.member = member ∧ visit.key.Matches key ∧
    (member.space? ≠ none → visit.key = key) ∧ pass.Fetches talk visit

/-- All workloads that the status may belong to, and there are some, have another one found for
them, in which nothing is recorded under the key of the scope. -/
def Overlooked (pass : Pass) (status : WorkloadStatus) (scope : Reference) : Prop :=
  (∃ workload ∈ pass.workloads, status.reference.Matches workload.reference) ∧
    ∀ workload ∈ pass.workloads, status.reference.Matches workload.reference →
      ∀ found ∈ pass.recordedScopes workload.reference,
        found.scopeKey workload.reference ≠ scope.scopeKey workload.reference

instance (pass : Pass) (status : WorkloadStatus) (scope : Reference) :
    Decidable (pass.Overlooked status scope) := by
  unfold Overlooked; infer_instance

theorem Part.fetch {visit : Visit} {here : List Exchange} (part : pass.Part (.visit visit) here) :
    ∃ reply rest, here = ⟨.get visit.key, reply⟩ :: rest := by
  cases part with
  | look visit reply => exact ⟨reply, [], rfl⟩
  | write visit scope body reply => exact ⟨.ok scope, _, rfl⟩

theorem fetches_of_planned {visit : Visit} (inTurn : InTurn pass.Part pass.tasks talk)
    (planned : .visit visit ∈ pass.tasks) : pass.Fetches talk visit := by
  obtain ⟨earlier, later, split⟩ := List.append_of_mem planned
  rw [split] at inTurn
  obtain ⟨before, here, after, rfl, front, its, -⟩ := inTurn.split
  obtain ⟨reply, rest, rfl⟩ := its.fetch
  exact ⟨earlier, later, before, reply, rest ++ after, split, front, rfl⟩

theorem desired_or_leaves (inTurn : InTurn pass.Part pass.tasks talk) {workload : Workload}
    (member : workload ∈ pass.workloads) {scope : Reference}
    (known : scope ∈ pass.recordedScopes workload.reference) :
    ¬ workload.Undesired (scope.scopeKey workload.reference) ∨
      pass.Leaves talk workload.reference (scope.scopeKey workload.reference) := by
  rcases ScopePlan.desired_or_left workload.reference workload.scopes known with
    ⟨wanted, desired, matching⟩ | ⟨left, toRemove, matching, own⟩
  · exact .inl fun undesired => undesired wanted desired matching
  · refine .inr ⟨⟨false, workload.reference, left⟩, rfl, rfl, matching, own, ?_⟩
    apply fetches_of_planned inTurn
    exact (pass.visit_mem_tasks_iff _).mpr (.inl ⟨workload, member, rfl, .inr ⟨rfl, toRemove⟩⟩)

theorem orphan_leaves (inTurn : InTurn pass.Part pass.tasks talk) {status : WorkloadStatus}
    (present : status ∈ pass.orphans) {scope : Reference}
    (known : scope ∈ status.scopeReferences) :
    pass.Leaves talk (pass.orphan status) (scope.scopeKey (pass.orphan status)) := by
  rcases ScopePlan.desired_or_left (pass.orphan status) [] known with
    ⟨wanted, impossible, -⟩ | ⟨left, toRemove, matching, own⟩
  · cases impossible
  · refine ⟨⟨false, pass.orphan status, left⟩, rfl, rfl, matching, own, ?_⟩
    apply fetches_of_planned inTurn
    exact (pass.visit_mem_tasks_iff _).mpr (.inr ⟨status, present, rfl, rfl, toRemove⟩)

/-- When a pass that dereferences orphans has succeeded, each recorded scope that was not overlooked
may be desired still by a workload of its status, or was fetched to be left, for such a workload or
for the orphan. -/
theorem recorded_scopes_accounted {State : Type} (pass : Pass) (request : Request)
    (world : World State) (state : State)
    (dereferences : pass.config.dereferenceOrphanedWorkloads = true)
    (succeeded : (pass.run request world state).result = .ok ())
    (status : WorkloadStatus) (recorded : status ∈ pass.recorded) (scope : Reference)
    (known : scope ∈ status.scopeReferences) (noticed : ¬ pass.Overlooked status scope) :
    let talk := (pass.run request world state).exchanges
    (∃ workload ∈ pass.workloads, status.reference.Matches workload.reference ∧
      (¬ workload.Undesired (scope.scopeKey workload.reference) ∨
        pass.Leaves talk workload.reference (scope.scopeKey workload.reference))) ∨
    status ∈ pass.orphans ∧
      pass.Leaves talk (pass.orphan status) (scope.scopeKey (pass.orphan status)) := by
  have inTurn := inTurn_of_ok succeeded
  by_cases found : ∃ workload ∈ pass.workloads, status.reference.Matches workload.reference ∧
      ∃ other ∈ pass.recordedScopes workload.reference,
        other.scopeKey workload.reference = scope.scopeKey workload.reference
  · obtain ⟨workload, member, matching, other, its, same⟩ := found
    have accounted := desired_or_leaves inTurn member its
    rw [same] at accounted
    exact .inl ⟨workload, member, matching, accounted⟩
  · have gone : ∀ workload ∈ pass.workloads, ¬ status.reference.Matches workload.reference := by
      intro workload member matching
      apply noticed
      refine ⟨⟨workload, member, matching⟩, ?_⟩
      intro other present its first inOther same
      exact found ⟨other, present, its, first, inOther, same⟩
    have inScopes : status.scopes ≠ [] := by
      intro empty
      simp [WorkloadStatus.scopeReferences, empty] at known
    have present := (pass.mem_orphans_iff status).mpr ⟨dereferences, recorded, inScopes, gone⟩
    exact .inr ⟨present, orphan_leaves inTurn present known⟩

theorem handover_leaves_recorded_scopes :
    let talk := (handover.run { requestId := "r" } MemoryStore.world handoverStore).exchanges
    let key (name : String) : Reference :=
      { apiVersion := "v1", kind := "Scope", name := name, space? := some "n" }
    handover.Leaves talk predecessor.reference (key "s") ∧
      handover.Leaves talk successor.reference (key "t") := by
  have accounted := recorded_scopes_accounted handover { requestId := "r" } MemoryStore.world
    handoverStore rfl rfl
  constructor
  · rcases accounted predecessor (by decide)
        { apiVersion := "v1", kind := "Scope", name := "s" } (by decide) (by decide) with
      ⟨workload, member, matching, -⟩ | ⟨-, left⟩
    · obtain rfl := List.mem_singleton.mp member
      exact absurd matching (by decide)
    · exact left
  · rcases accounted successorStatus (by decide)
        { apiVersion := "v1", kind := "Scope", name := "t" } (by decide) (by decide) with
      ⟨workload, member, -, wanted | left⟩ | ⟨orphaned, -⟩
    · obtain rfl := List.mem_singleton.mp member
      exact absurd (by decide) wanted
    · obtain rfl := List.mem_singleton.mp member
      exact left
    · exact absurd orphaned (by decide)

def shadowedBody : Resource := (Resource.new "v1" "Web" "w").withNamespace "n"

def shadowedStatus : WorkloadStatus where
  reference := shadowedBody.reference
  scopes := [⟨{ apiVersion := "v1", kind := "Scope", name := "s", space? := some "n" }⟩]

def shadowed : Pass where
  recorded := [{ reference := { shadowedBody.reference with space? := none } }, shadowedStatus]
  workloads := [{ body := shadowedBody }]

def shadowedStore : MemoryStore := .holding [.scopeWith "n" "s" shadowedBody.reference]

/-- A scope is forgotten that is recorded in a status which is not the first of its workload. -/
theorem forgets_scope_behind_other_status :
    ¬ ∀ (pass : Pass) (request : Request) (store : MemoryStore),
      pass.config.dereferenceOrphanedWorkloads = true →
      (pass.run request MemoryStore.world store).result = .ok () →
      ∀ status ∈ pass.recorded, ∀ scope ∈ status.scopeReferences,
        let talk := (pass.run request MemoryStore.world store).exchanges
        (∃ workload ∈ pass.workloads, status.reference.Matches workload.reference ∧
          (¬ workload.Undesired (scope.scopeKey workload.reference) ∨
            pass.Leaves talk workload.reference (scope.scopeKey workload.reference))) ∨
        status ∈ pass.orphans ∧
          pass.Leaves talk (pass.orphan status) (scope.scopeKey (pass.orphan status)) := by
  intro accounted
  let talk := (shadowed.run { requestId := "r" } MemoryStore.world shadowedStore).exchanges
  have said : talk = [⟨.upsert .workload shadowedBody [], .ok ()⟩] := by rfl
  have unfetched (member key : Reference) : ¬ shadowed.Leaves talk member key := by
    rintro ⟨visit, -, -, -, -, earlier, later, before, reply, after, -, -, split⟩
    have fetched : ⟨.get visit.key, reply⟩ ∈ talk := by
      rw [split]
      exact List.mem_append_right before List.mem_cons_self
    rw [said] at fetched
    cases List.mem_singleton.mp fetched
  rcases accounted shadowed { requestId := "r" } shadowedStore rfl rfl shadowedStatus (by decide)
    _ List.mem_cons_self with ⟨workload, member, -, wanted | left⟩ | ⟨-, left⟩
  · obtain rfl := List.mem_singleton.mp member
    exact absurd (by decide) wanted
  · exact unfetched _ _ left
  · exact unfetched _ _ left

end Pass

end Rollout
