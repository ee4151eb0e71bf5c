import Rollout.Proofs.Convergence

/-! Namesakes. An entry holds no namespace, so that one entry of a scope stands for all workloads
of that version, kind and name. Where namesakes lie in several namespaces, the last of them to
visit a scope decides whether the entry is there, and a scope may be lost that is still desired. -/

set_option autoImplicit false

namespace Rollout

open Enrolment (Visit)

def Workload.Desires (workload : Workload) (key : Reference) : Prop :=
  ∃ scope ∈ workload.scopes, scope.reference.scopeKey workload.reference = key

instance (workload : Workload) (key : Reference) : Decidable (workload.Desires key) := by
  unfold Workload.Desires; infer_instance

namespace Pass

variable {pass : Pass} {store : MemoryStore}

/-- The scope was recorded for the workload and is not desired any more. -/
def Drops (pass : Pass) (workload : Workload) (key : Reference) : Prop :=
  (∃ scope ∈ pass.recordedScopes workload.reference, scope.scopeKey workload.reference = key) ∧
    ¬ workload.Desires key

def OrphanDrops (pass : Pass) (status : WorkloadStatus) (key : Reference) : Prop :=
  ∃ scope ∈ status.scopeReferences, scope.scopeKey (pass.orphan status) = key

instance (pass : Pass) (status : WorkloadStatus) (key : Reference) :
    Decidable (pass.OrphanDrops status key) := by
  unfold OrphanDrops; infer_instance

/-- An orphan that is a namesake of the member drops the scope, or a workload that is one does and
no later namesake desires it. The workload itself may be such a later one. -/
def TakenOff (pass : Pass) (member key : Reference) : Prop :=
  (∃ status ∈ pass.orphans, status.reference.Alike member ∧ pass.OrphanDrops status key) ∨
    ∃ before workload after, pass.workloads = before ++ workload :: after ∧
      workload.reference.Alike member ∧ pass.Drops workload key ∧
        ∀ later ∈ after, later.reference.Alike member → ¬ later.Desires key

theorem visit_mem_workloadTasks_iff_desires {workload : Workload} {space : String}
    (inSpace : workload.body.space? = some space) (visit : Visit) :
    .visit visit ∈ pass.workloadTasks workload ↔
      visit.member = workload.reference ∧
        (visit.joins = true ∧ workload.Desires visit.key ∨
          visit.joins = false ∧ pass.Drops workload visit.key) := by
  have spaced : workload.reference.space? = some space := inSpace
  simp only [visit_mem_workloadTasks_iff, plan, ScopePlan.mem_toAdd_iff spaced,
    ScopePlan.mem_toRemove_iff spaced, Workload.Desires, Drops, not_exists, not_and, ne_eq]

theorem visit_mem_orphanTasks_iff_drops {status : WorkloadStatus} {space : String}
    (inSpace : (pass.orphan status).space? = some space) (visit : Visit) :
    .visit visit ∈ pass.orphanTasks status ↔
      visit.member = pass.orphan status ∧ visit.joins = false ∧
        pass.OrphanDrops status visit.key := by
  simp only [visit_mem_orphanTasks_iff, orphanPlan, ScopePlan.mem_toRemove_iff inSpace, OrphanDrops,
    List.not_mem_nil, false_implies, implies_true, and_true]

theorem split_at_workload {before after : List Workload} {workload : Workload} {task : Task}
    (split : pass.workloads = before ++ workload :: after)
    (planned : task ∈ pass.workloadTasks workload) :
    ∃ first later, pass.tasks = first ++ task :: later ∧ ∀ other ∈ later,
      other ∈ pass.workloadTasks workload ∨
        (∃ next ∈ after, other ∈ pass.workloadTasks next) ∨
          ∃ status ∈ pass.orphans, other ∈ pass.orphanTasks status := by
  obtain ⟨earlier, rest, own⟩ := List.append_of_mem planned
  refine ⟨before.flatMap pass.workloadTasks ++ earlier,
    rest ++ (after.flatMap pass.workloadTasks ++ pass.orphans.flatMap pass.orphanTasks), ?_, ?_⟩
  · simp only [tasks, split, List.flatMap_append, List.flatMap_cons, own, List.append_assoc,
      List.cons_append]
  · intro other member
    simp only [List.mem_append, List.mem_flatMap] at member
    rcases member with mine | theirs | orphaned
    · apply Or.inl
      rw [own]
      exact List.mem_append_right _ (List.mem_cons_of_mem _ mine)
    · exact .inr (.inl theirs)
    · exact .inr (.inr orphaned)

theorem split_at_orphan {status : WorkloadStatus} {task : Task} (present : status ∈ pass.orphans)
    (planned : task ∈ pass.orphanTasks status) :
    ∃ first later, pass.tasks = first ++ task :: later ∧ ∀ other ∈ later,
      ∃ status ∈ pass.orphans, other ∈ pass.orphanTasks status := by
  have among : task ∈ pass.orphans.flatMap pass.orphanTasks :=
    List.mem_flatMap.mpr ⟨status, present, planned⟩
  obtain ⟨earlier, later, split⟩ := List.append_of_mem among
  refine ⟨pass.workloads.flatMap pass.workloadTasks ++ earlier, later, ?_, ?_⟩
  · rw [tasks, split, List.append_assoc]
  · intro other member
    have orphaned : other ∈ pass.orphans.flatMap pass.orphanTasks := by
      rw [split]
      exact List.mem_append_right _ (List.mem_cons_of_mem _ member)
    exact List.mem_flatMap.mp orphaned

theorem exists_last {α : Type} (holds : α → Prop) {items : List α}
    (some : ∃ item ∈ items, holds item) :
    ∃ before item after, items = before ++ item :: after ∧ holds item ∧
      ∀ later ∈ after, ¬ holds later := by
  induction items with
  | nil =>
      obtain ⟨item, impossible, -⟩ := some
      cases impossible
  | cons first rest ih =>
      by_cases later : ∃ item ∈ rest, holds item
      · obtain ⟨before, item, after, split, held, last⟩ := ih later
        exact ⟨first :: before, item, after, by rw [split, List.cons_append], held, last⟩
      · obtain ⟨item, member, held⟩ := some
        rcases List.mem_cons.mp member with rfl | deeper
        · exact ⟨[], item, rest, rfl, held, fun other present also => later ⟨other, present, also⟩⟩
        · exact absurd ⟨item, deeper, held⟩ later

section Spaced

variable (spaced : ∀ workload ∈ pass.workloads, ∃ space, workload.body.space? = some space)
include spaced

theorem exists_space?_orphan_of_spaced (inhabited : pass.workloads ≠ [])
    (status : WorkloadStatus) : ∃ own, (pass.orphan status).space? = some own := by
  obtain ⟨workload, member, same⟩ := exists_space?_of_inhabited inhabited spaced
  obtain ⟨space, inSpace⟩ := spaced workload member
  exact exists_space?_orphan (same.trans inSpace) status

theorem exists_join_of_not_takenOff {workload : Workload} (member : workload ∈ pass.workloads)
    {key : Reference} (desired : workload.Desires key)
    (kept : ¬ pass.TakenOff workload.reference key) :
    ∃ visit, pass.Decides visit ∧ visit.joins = true ∧ visit.key = key ∧
      visit.member.Alike workload.reference := by
  obtain ⟨before, last, after, split, ⟨alike, desires⟩, noLater⟩ := exists_last
    (fun other : Workload => other.reference.Alike workload.reference ∧ other.Desires key)
    ⟨workload, member, ⟨rfl, rfl, rfl⟩, desired⟩
  obtain ⟨space, inSpace⟩ := spaced last (by rw [split]; simp)
  have planned : .visit ⟨true, last.reference, key⟩ ∈ pass.workloadTasks last :=
    (visit_mem_workloadTasks_iff_desires inSpace _).mpr ⟨rfl, .inl ⟨rfl, desires⟩⟩
  obtain ⟨first, later, whole, origin⟩ := split_at_workload split planned
  refine ⟨⟨true, last.reference, key⟩, ⟨first, later, whole, ?_⟩, rfl, rfl, alike⟩
  intro other present (sameKey : other.key = key)
  by_cases namesake : last.reference.Alike other.member
  · apply Or.inl
    rcases origin _ present with mine | ⟨next, inAfter, theirs⟩ | ⟨status, orphaned, theirs⟩
    · obtain ⟨-, joins | leaves⟩ := (visit_mem_workloadTasks_iff_desires inSpace other).mp mine
      · exact joins.1.symm
      · exact absurd (sameKey ▸ desires) leaves.2.2
    · obtain ⟨own, inOwn⟩ := spaced next (by rw [split]; simp [inAfter])
      obtain ⟨its, joins | leaves⟩ := (visit_mem_workloadTasks_iff_desires inOwn other).mp theirs
      · exact joins.1.symm
      · obtain ⟨middle, rest, deeper⟩ := List.append_of_mem inAfter
        refine absurd (.inr ⟨before ++ last :: middle, next, rest, ?_, ?_, ?_, ?_⟩) kept
        · rw [split, deeper, List.append_assoc, List.cons_append]
        · exact (its ▸ namesake.symm).trans alike
        · exact sameKey ▸ leaves.2
        · intro latest inRest same desires
          exact noLater latest (by rw [deeper]; simp [inRest]) ⟨same, desires⟩
    · have inhabited := List.ne_nil_of_mem member
      obtain ⟨own, inOwn⟩ := exists_space?_orphan_of_spaced spaced inhabited status
      obtain ⟨its, -, drops⟩ := (visit_mem_orphanTasks_iff_drops inOwn other).mp theirs
      refine absurd (.inl ⟨status, orphaned, ?_, sameKey ▸ drops⟩) kept
      exact ((pass.alike_orphan status).symm.trans (its ▸ namesake.symm)).trans alike
  · exact .inr namesake

theorem exists_leave_of_takenOff (inhabited : pass.workloads ≠ []) {member key : Reference}
    (taken : pass.TakenOff member key) :
    ∃ visit, pass.Decides visit ∧ visit.joins = false ∧ visit.key = key ∧
      visit.member.Alike member := by
  have orphanLeaves {status : WorkloadStatus} {other : Visit}
      (theirs : .visit other ∈ pass.orphanTasks status) : other.joins = false := by
    obtain ⟨own, inOwn⟩ := exists_space?_orphan_of_spaced spaced inhabited status
    exact ((visit_mem_orphanTasks_iff_drops inOwn other).mp theirs).2.1
  rcases taken with ⟨status, orphaned, alike, drops⟩ |
    ⟨before, workload, after, split, alike, drops, noLater⟩
  · obtain ⟨own, inOwn⟩ := exists_space?_orphan_of_spaced spaced inhabited status
    have planned : .visit ⟨false, pass.orphan status, key⟩ ∈ pass.orphanTasks status :=
      (visit_mem_orphanTasks_iff_drops inOwn _).mpr ⟨rfl, rfl, drops⟩
    obtain ⟨first, later, whole, origin⟩ := split_at_orphan orphaned planned
    refine ⟨⟨false, pass.orphan status, key⟩, ⟨first, later, whole, ?_⟩, rfl, rfl,
      (pass.alike_orphan status).trans alike⟩
    intro other present _
    obtain ⟨status, -, theirs⟩ := origin _ present
    exact .inl (orphanLeaves theirs).symm
  · obtain ⟨space, inSpace⟩ := spaced workload (by rw [split]; simp)
    have planned : .visit ⟨false, workload.reference, key⟩ ∈ pass.workloadTasks workload :=
      (visit_mem_workloadTasks_iff_desires inSpace _).mpr ⟨rfl, .inr ⟨rfl, drops⟩⟩
    obtain ⟨first, later, whole, origin⟩ := split_at_workload split planned
    refine ⟨⟨false, workload.reference, key⟩, ⟨first, later, whole, ?_⟩, rfl, rfl, alike⟩
    intro other present (sameKey : other.key = key)
    rcases origin _ present with mine | ⟨next, inAfter, theirs⟩ | ⟨status, -, theirs⟩
    · obtain ⟨-, joins | leaves⟩ := (visit_mem_workloadTasks_iff_desires inSpace other).mp mine
      · exact absurd (sameKey ▸ joins.2) drops.2
      · exact .inl leaves.1.symm
    · obtain ⟨own, inOwn⟩ := spaced next (by rw [split]; simp [inAfter])
      obtain ⟨its, joins | leaves⟩ := (visit_mem_workloadTasks_iff_desires inOwn other).mp theirs
      · refine .inr fun namesake => ?_
        exact noLater next inAfter ((its ▸ namesake.symm).trans alike) (sameKey ▸ joins.2)
      · exact .inl leaves.1.symm
    · exact .inl (orphanLeaves theirs).symm

end Spaced

/-- After a successful pass over workloads that all have a namespace, a desired scope is there, and
it lists the workload unless a namesake took the entry off for good. -/
theorem listed_iff_not_takenOff (pass : Pass) (request : Request) (store : MemoryStore)
    (spaced : ∀ workload ∈ pass.workloads, ∃ space, workload.body.space? = some space)
    (separate : (pass.run request MemoryStore.world store).Separate)
    (succeeded : (pass.run request MemoryStore.world store).result = .ok ())
    (workload : Workload) (member : workload ∈ pass.workloads) (key : Reference)
    (desired : workload.Desires key) :
    ∃ scope, (pass.run request MemoryStore.world store).state.get key = .ok scope ∧
      (Enrolment.Lists pass.config scope workload.reference ↔
        ¬ pass.TakenOff workload.reference key) := by
  have inhabited := List.ne_nil_of_mem member
  have smooth := (pass.run_ok_iff request store).mp succeeded
  have apart := apart_of_separate (placed_of_visit inhabited spaced) smooth separate
  obtain ⟨-, -, left⟩ := run_of_smooth smooth request
  obtain ⟨space, inSpace⟩ := spaced workload member
  have planned : .visit ⟨true, workload.reference, key⟩ ∈ pass.tasks :=
    List.mem_append_left _ (List.mem_flatMap.mpr ⟨workload, member,
      (visit_mem_workloadTasks_iff_desires inSpace _).mpr ⟨rfl, .inl ⟨rfl, desired⟩⟩⟩)
  obtain ⟨scope, found⟩ := found_of_joins rfl smooth apart planned
  refine ⟨scope, by rw [left, MemoryStore.get, found], ?_⟩
  have decided {visit : Visit} (decides : pass.Decides visit) (same : visit.key = key)
      (alike : visit.member.Alike workload.reference) :
      Enrolment.Lists pass.config scope workload.reference ↔ visit.joins = true := by
    have settled := done_of_decides decides smooth apart scope (same ▸ found)
    rw [← Enrolment.lists_congr alike]
    exact (visit.settled_iff.mp settled).2
  by_cases taken : pass.TakenOff workload.reference key
  · obtain ⟨visit, decides, leaves, same, alike⟩ := exists_leave_of_takenOff spaced inhabited taken
    simp [decided decides same alike, leaves, taken]
  · obtain ⟨visit, decides, joins, same, alike⟩ :=
      exists_join_of_not_takenOff spaced member desired taken
    simp [decided decides same alike, joins, taken]

def moved : Pass where
  recorded := [{
    reference := { apiVersion := "v1", kind := "Web", name := "w", space? := some "old" }
    scopes := [⟨{ apiVersion := "v1", kind := "Scope", name := "s", space? := some "hub" }⟩] }]
  workloads := [{
    body := (Resource.new "v1" "Web" "w").withNamespace "new"
    scopes := [(Resource.new "v1" "Scope" "s").withNamespace "hub"] }]

def movedStore : MemoryStore :=
  .holding
    [.scopeWith "hub" "s" { apiVersion := "v1", kind := "Web", name := "w", space? := some "old" }]

def hub : Reference := { apiVersion := "v1", kind := "Scope", name := "s", space? := some "hub" }

def emptiedHub : Resource :=
  ((Resource.scopeWith "hub" "s" hub).set "spec.workloadRefs" (.array [])).resource

/-- The entry of a workload goes with that of a namesake which is gone. -/
theorem loses_entry_to_namesake :
    ¬ ∀ (pass : Pass) (request : Request) (store : MemoryStore),
      (∀ workload ∈ pass.workloads, ∃ space, workload.body.space? = some space) →
      (pass.workloads.Pairwise fun one other => ¬ one.reference.Matches other.reference) →
      (pass.run request MemoryStore.world store).Separate →
      (pass.run request MemoryStore.world store).result = .ok () →
      ∀ workload ∈ pass.workloads, ∀ key, workload.Desires key →
        pass.Listed (pass.run request MemoryStore.world store).state key workload.reference := by
  intro always
  have spaced : ∀ workload ∈ moved.workloads, ∃ space, workload.body.space? = some space := by
    intro workload member
    obtain rfl := List.mem_singleton.mp member
    exact ⟨"new", by decide⟩
  obtain ⟨scope, found, lists⟩ := always moved { requestId := "r" } movedStore spaced (by decide)
    (by decide) rfl _ List.mem_cons_self hub (by decide)
  have left : (moved.run { requestId := "r" } MemoryStore.world movedStore).state.get hub =
      .ok emptiedHub := by rfl
  rw [left] at found
  cases found
  obtain ⟨items, there, entry, present, -⟩ := lists
  have none : emptiedHub.get moved.config.workloadRefsPath = .ok (.array []) := by rfl
  rw [none] at there
  cases there
  cases present

theorem moved_taken_off : ∃ scope,
    (moved.run { requestId := "r" } MemoryStore.world movedStore).state.get hub = .ok scope ∧
      ¬ Enrolment.Lists moved.config scope
        { apiVersion := "v1", kind := "Web", name := "w", space? := some "new" } := by
  have spaced : ∀ workload ∈ moved.workloads, ∃ space, workload.body.space? = some space := by
    intro workload member
    obtain rfl := List.mem_singleton.mp member
    exact ⟨"new", by decide⟩
  obtain ⟨scope, found, lists⟩ := listed_iff_not_takenOff moved { requestId := "r" } movedStore
    spaced (by decide) rfl _ List.mem_cons_self hub (by decide)
  refine ⟨scope, found, ?_⟩
  intro listed
  refine lists.mp listed (.inl ⟨_, List.mem_cons_self, by decide, ?_⟩)
  decide

end Pass

end Rollout
