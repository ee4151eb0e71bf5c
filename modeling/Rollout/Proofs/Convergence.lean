import Rollout.Proofs.Content

/-! Convergence. Where all workloads of a pass share a namespace, its visits never speak against
one another, so that each is still settled when the pass has succeeded: what is desired is listed,
and what is not desired any more is not. -/

set_option autoImplicit false

namespace Rollout

open Enrolment (Visit)

namespace Reference

theorem eq_of_alike {α : Type} {items : List α} {reference : α → Reference}
    (apart : items.Pairwise fun one other => ¬ (reference one).Alike (reference other))
    {one other : α} (first : one ∈ items) (second : other ∈ items)
    (alike : (reference one).Alike (reference other)) : one = other :=
  eq_of_pairwise_not (fun _ _ => Alike.symm) apart first second alike

end Reference

namespace Pass

/-- The workloads, of which there are some, lie in one namespace, where entries tell them apart.
A status may leave the namespace out. -/
structure SharesNamespace (pass : Pass) (space : String) : Prop where
  inhabited : pass.workloads ≠ []
  workloads : ∀ workload ∈ pass.workloads, workload.body.space? = some space
  distinct : pass.workloads.Pairwise fun one other => ¬ one.reference.Alike other.reference
  recorded : ∀ status ∈ pass.recorded,
    status.reference.space? = none ∨ status.reference.space? = some space

theorem exists_space?_of_inhabited {pass : Pass} (inhabited : pass.workloads ≠ [])
    (spaced : ∀ workload ∈ pass.workloads, ∃ space, workload.body.space? = some space) :
    ∃ workload ∈ pass.workloads, pass.space? = workload.body.space? := by
  unfold space?
  cases workloads : pass.workloads with
  | nil => exact absurd workloads inhabited
  | cons first rest =>
      obtain ⟨space, inSpace⟩ := spaced first (workloads ▸ List.mem_cons_self)
      refine ⟨first, List.mem_cons_self, ?_⟩
      rw [List.findSome?_cons, inSpace]

theorem exists_space?_orphan {pass : Pass} {space : String} (shared : pass.space? = some space)
    (status : WorkloadStatus) : ∃ own, (pass.orphan status).space? = some own := by
  unfold orphan Reference.inheritNamespace
  cases status.reference.space? with
  | none => exact ⟨space, shared⟩
  | some own => exact ⟨own, rfl⟩

theorem alike_orphan (pass : Pass) (status : WorkloadStatus) :
    (pass.orphan status).Alike status.reference :=
  ⟨rfl, rfl, rfl⟩

theorem placed_of_visit {pass : Pass} (inhabited : pass.workloads ≠ [])
    (spaced : ∀ workload ∈ pass.workloads, ∃ space, workload.body.space? = some space)
    (visit : Visit) (planned : .visit visit ∈ pass.tasks) : visit.key.Placed := by
  rcases (pass.visit_mem_tasks_iff visit).mp planned with
    ⟨workload, member, -, joined | left⟩ | ⟨status, member, -, -, left⟩
  · obtain ⟨space, inSpace⟩ := spaced workload member
    have own : workload.reference.space? = some space := inSpace
    exact ScopePlan.placed_of_mem own (.inl joined.2)
  · obtain ⟨space, inSpace⟩ := spaced workload member
    have own : workload.reference.space? = some space := inSpace
    exact ScopePlan.placed_of_mem own (.inr left.2)
  · obtain ⟨first, present, same⟩ := exists_space?_of_inhabited inhabited spaced
    obtain ⟨space, inSpace⟩ := spaced first present
    obtain ⟨own, its⟩ := exists_space?_orphan (same.trans inSpace) status
    exact ScopePlan.placed_of_mem its (.inr left)

namespace SharesNamespace

variable {pass : Pass} {space : String}

theorem spaced (shared : pass.SharesNamespace space) :
    ∀ workload ∈ pass.workloads, ∃ space, workload.body.space? = some space :=
  fun workload member => ⟨space, shared.workloads workload member⟩

theorem space?_eq (shared : pass.SharesNamespace space) : pass.space? = some space := by
  obtain ⟨workload, member, same⟩ := exists_space?_of_inhabited shared.inhabited shared.spaced
  exact same.trans (shared.workloads workload member)

theorem orphan_eq (shared : pass.SharesNamespace space) (status : WorkloadStatus) :
    pass.orphan status = status.reference.inheritNamespace (some space) := by
  rw [orphan, shared.space?_eq]

theorem matches_of_alike (shared : pass.SharesNamespace space) {status : WorkloadStatus}
    (recorded : status ∈ pass.recorded) {workload : Workload} (member : workload ∈ pass.workloads)
    (alike : status.reference.Alike workload.reference) :
    status.reference.Matches workload.reference := by
  obtain ⟨version, kind, name⟩ := alike
  refine ⟨version, kind, name, ?_⟩
  rcases shared.recorded status recorded with absent | same
  · exact .inl absent
  · exact .inr (.inr (same.trans (shared.workloads workload member).symm))

theorem not_joined_and_left (shared : pass.SharesNamespace space) {joining leaving : Visit}
    (joined : .visit joining ∈ pass.tasks) (left : .visit leaving ∈ pass.tasks)
    (joins : joining.joins = true) (leaves : leaving.joins = false)
    (sameKey : joining.key = leaving.key) : ¬ joining.member.Alike leaving.member := by
  intro alike
  simp only [visit_mem_tasks_iff, joins, leaves, true_and, Bool.true_eq_false, Bool.false_eq_true,
    false_and, and_false, or_false, false_or, exists_false] at joined left
  obtain ⟨workload, member, its, toAdd⟩ := joined
  rcases left with ⟨other, present, its', toRemove⟩ | ⟨status, present, its', -⟩
  · rw [its, its'] at alike
    obtain rfl := Reference.eq_of_alike shared.distinct member present alike
    obtain ⟨-, unplanned⟩ := ScopePlan.recorded_of_mem_toRemove toRemove
    exact unplanned joining.key toAdd (sameKey ▸ .refl _)
  · rw [its, its'] at alike
    obtain ⟨-, recorded, -, gone⟩ := (pass.mem_orphans_iff status).mp present
    exact gone workload member (shared.matches_of_alike recorded member alike.symm)

theorem agrees (shared : pass.SharesNamespace space) {first second : Visit}
    (one : .visit first ∈ pass.tasks) (other : .visit second ∈ pass.tasks)
    (sameKey : first.key = second.key) : first.Agrees second := by
  cases joins : first.joins with
  | true =>
      cases joins' : second.joins with
      | true => exact .inl (joins.trans joins'.symm)
      | false => exact .inr (shared.not_joined_and_left one other joins joins' sameKey)
  | false =>
      cases joins' : second.joins with
      | true =>
          refine .inr fun alike => ?_
          exact shared.not_joined_and_left other one joins' joins sameKey.symm alike.symm
      | false => exact .inl (joins.trans joins'.symm)

theorem decides (shared : pass.SharesNamespace space) {visit : Visit}
    (planned : .visit visit ∈ pass.tasks) : pass.Decides visit := by
  obtain ⟨before, later, split⟩ := List.append_of_mem planned
  refine ⟨before, later, split, ?_⟩
  intro other present sameKey
  refine shared.agrees planned ?_ sameKey.symm
  rw [split]
  exact List.mem_append_right _ (List.mem_cons_of_mem _ present)

theorem placed (shared : pass.SharesNamespace space) :
    ∀ visit, .visit visit ∈ pass.tasks → visit.key.Placed :=
  placed_of_visit shared.inhabited shared.spaced

end SharesNamespace

def Unlisted (pass : Pass) (store : MemoryStore) (key member : Reference) : Prop :=
  (∃ refusal, store.get key = .error refusal ∧ refusal.isNotFound = true) ∨
    ∃ scope, store.get key = .ok scope ∧ ¬ Enrolment.Lists pass.config scope member

def Listed (pass : Pass) (store : MemoryStore) (key member : Reference) : Prop :=
  ∃ scope, store.get key = .ok scope ∧ Enrolment.Lists pass.config scope member

theorem unlisted_of_done {pass : Pass} {store : MemoryStore} {visit : Visit}
    (done : pass.Done store visit) (leaves : visit.joins = false) :
    pass.Unlisted store visit.key visit.member := by
  unfold Unlisted MemoryStore.get
  cases found : store.find? visit.key with
  | none => exact .inl ⟨_, rfl, rfl⟩
  | some scope =>
      refine .inr ⟨scope, rfl, ?_⟩
      intro lists
      have joins := (visit.settled_iff.mp (done scope found)).2.mp lists
      rw [leaves] at joins
      cases joins

theorem listed_of_done {pass : Pass} {store : MemoryStore} {visit : Visit} {scope : Resource}
    (done : pass.Done store visit) (joins : visit.joins = true)
    (found : store.find? visit.key = some scope) : pass.Listed store visit.key visit.member := by
  refine ⟨scope, ?_, (visit.settled_iff.mp (done scope found)).2.mpr joins⟩
  simp only [MemoryStore.get, found]

theorem recordedScopes_eq {pass : Pass} {workload : Workload} {status : WorkloadStatus}
    (apart : pass.recorded.Pairwise fun one other => ¬ one.reference.Alike other.reference)
    (recorded : status ∈ pass.recorded) (matching : status.reference.Matches workload.reference) :
    pass.recordedScopes workload.reference = status.scopeReferences := by
  unfold recordedScopes
  cases found : WorkloadStatus.find? pass.recorded workload.reference with
  | none =>
      have differs := List.find?_eq_none.mp found status recorded
      exact absurd (decide_eq_true matching) differs
  | some first =>
      obtain ⟨present, also⟩ := WorkloadStatus.matches_of_find? found
      have alike := also.alike.trans matching.alike.symm
      rw [Reference.eq_of_alike apart present recorded alike]

/-- After a successful pass over workloads that share a namespace, every desired scope lists its
workload, no scope that was recorded for a workload and is not desired any more lists it, and none
that was recorded for a workload that is gone lists that. -/
theorem converges (pass : Pass) (space : String) (request : Request) (store : MemoryStore)
    (dereferences : pass.config.dereferenceOrphanedWorkloads = true)
    (shared : pass.SharesNamespace space)
    (apart : pass.recorded.Pairwise fun one other => ¬ one.reference.Alike other.reference)
    (separate : (pass.run request MemoryStore.world store).Separate)
    (succeeded : (pass.run request MemoryStore.world store).result = .ok ()) :
    let final := (pass.run request MemoryStore.world store).state
    (∀ workload ∈ pass.workloads, ∀ scope ∈ workload.scopes,
      pass.Listed final (scope.reference.scopeKey workload.reference) workload.reference) ∧
    (∀ workload ∈ pass.workloads, ∀ status ∈ pass.recorded,
      status.reference.Matches workload.reference → ∀ scope ∈ status.scopeReferences,
        workload.Undesired (scope.scopeKey workload.reference) →
          pass.Unlisted final (scope.scopeKey workload.reference) workload.reference) ∧
    ∀ status ∈ pass.recorded,
      (∀ workload ∈ pass.workloads, ¬ status.reference.Matches workload.reference) →
        ∀ scope ∈ status.scopeReferences,
          pass.Unlisted final (scope.scopeKey (status.reference.inheritNamespace (some space)))
            status.reference := by
  have smooth := (pass.run_ok_iff request store).mp succeeded
  have kept := apart_of_separate shared.placed smooth separate
  obtain ⟨-, -, left⟩ := run_of_smooth smooth request
  rw [left]
  refine ⟨?_, ?_, ?_⟩
  · intro workload member scope desired
    have planned : .visit ⟨true, workload.reference, scope.reference.scopeKey workload.reference⟩ ∈
        pass.tasks := by
      refine (pass.visit_mem_tasks_iff _).mpr (.inl ⟨workload, member, rfl, .inl ⟨rfl, ?_⟩⟩)
      have own : workload.reference.space? = some space := shared.workloads workload member
      exact (ScopePlan.mem_toAdd_iff own).mpr ⟨scope, desired, rfl⟩
    obtain ⟨found, there⟩ := found_of_joins rfl smooth kept planned
    exact listed_of_done (done_of_decides (shared.decides planned) smooth kept) rfl there
  · intro workload member status recorded matching scope known undesired
    have planned : .visit ⟨false, workload.reference, scope.scopeKey workload.reference⟩ ∈
        pass.tasks := by
      refine (pass.visit_mem_tasks_iff _).mpr (.inl ⟨workload, member, rfl, .inr ⟨rfl, ?_⟩⟩)
      have own : workload.reference.space? = some space := shared.workloads workload member
      refine (ScopePlan.mem_toRemove_iff own).mpr ⟨⟨scope, ?_, rfl⟩, ?_⟩
      · rwa [recordedScopes_eq apart recorded matching]
      · intro wanted desired same
        exact undesired wanted desired (same ▸ .refl _)
    exact unlisted_of_done (done_of_decides (shared.decides planned) smooth kept) rfl
  · intro status recorded gone scope known
    have present : status ∈ pass.orphans := by
      unfold orphans
      rw [if_pos dereferences]
      refine List.mem_filter.mpr ⟨recorded, decide_eq_true ⟨?_, gone⟩⟩
      rintro empty
      simp [WorkloadStatus.scopeReferences, empty] at known
    obtain ⟨own, inSpace⟩ := exists_space?_orphan shared.space?_eq status
    have planned : .visit ⟨false, pass.orphan status, scope.scopeKey (pass.orphan status)⟩ ∈
        pass.tasks := by
      refine (pass.visit_mem_tasks_iff _).mpr (.inr ⟨status, present, rfl, rfl, ?_⟩)
      exact (ScopePlan.mem_toRemove_iff inSpace).mpr ⟨⟨scope, known, rfl⟩, nofun⟩
    have unlisted := unlisted_of_done (done_of_decides (shared.decides planned) smooth kept) rfl
    rw [shared.orphan_eq] at unlisted
    exact unlisted

def predecessor : WorkloadStatus where
  reference := { apiVersion := "v1", kind := "Web", name := "old", space? := some "n" }
  scopes := [⟨{ apiVersion := "v1", kind := "Scope", name := "s" }⟩]

def successor : Workload where
  body := (Resource.new "v1" "Web" "new").withNamespace "n"
  traits := [(Resource.new "v1" "Route" "r").withNamespace "n"]
  scopes := [.new "v1" "Scope" "s"]

def successorStatus : WorkloadStatus where
  reference := { apiVersion := "v1", kind := "Web", name := "new" }
  scopes := [⟨{ apiVersion := "v1", kind := "Scope", name := "t" }⟩]

def handover : Pass where
  recorded := [predecessor, successorStatus]
  workloads := [successor]

def handoverStore : MemoryStore :=
  (MemoryStore.holding
    [.scopeWith "n" "s" predecessor.reference, .scopeWith "n" "t" successor.reference]).register
      "v1" "Route" { workloadRefPath? := some "spec.workload" }

theorem handover_shared : handover.SharesNamespace "n" :=
  ⟨by decide, by decide, by decide, by decide⟩

theorem converges_handover :
    let final := (handover.run { requestId := "r" } MemoryStore.world handoverStore).state
    let key (name : String) : Reference :=
      { apiVersion := "v1", kind := "Scope", name := name, space? := some "n" }
    handover.Listed final (key "s") successor.reference ∧
      handover.Unlisted final (key "t") successor.reference ∧
      handover.Unlisted final (key "s") predecessor.reference := by
  obtain ⟨listed, left, gone⟩ := converges handover "n" { requestId := "r" } handoverStore rfl
    handover_shared (by decide) (by decide) rfl
  refine ⟨listed successor (by decide) (.new "v1" "Scope" "s") (by decide), ?_, ?_⟩
  · exact left successor (by decide) successorStatus (by decide) (by decide)
      { apiVersion := "v1", kind := "Scope", name := "t" } (by decide) (by decide)
  · exact gone predecessor (by decide) (by decide)
      { apiVersion := "v1", kind := "Scope", name := "s" } (by decide)

end Pass

end Rollout
