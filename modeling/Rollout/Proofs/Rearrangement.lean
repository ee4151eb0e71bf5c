import Rollout.Proofs.Reconciliation

/-! The order in which scopes are given, and how often, does not matter to a workload in a
namespace. Its plan holds the keys that it is given, each once, and visits of different scopes do
not get in the way of each other. -/

set_option autoImplicit false

namespace Rollout

open Enrolment (Visit Parted)

namespace Pass

variable {pass : Pass} {store : MemoryStore} {visits others : List Visit}

theorem lookup?_after_of_mem_iff (parted : Parted visits) (parted' : Parted others)
    (same : ∀ visit, visit ∈ visits ↔ visit ∈ others) (key : Key) :
    (pass.after store (visits.map .visit)).lookup? key =
      (pass.after store (others.map .visit)).lookup? key := by
  by_cases touched : ∃ visit ∈ visits, ∃ body,
      visit.revised? pass.config (store.find? visit.key) = some body ∧ body.key = key
  · obtain ⟨visit, planned, body, revised, rfl⟩ := touched
    exact (lookup?_after_of_revised parted planned revised).trans
      (lookup?_after_of_revised parted' ((same visit).mp planned) revised).symm
  · have elsewhere (visit : Visit) (planned : visit ∈ visits) (body : Resource)
        (revised : visit.revised? pass.config (store.find? visit.key) = some body) :
        body.key ≠ key :=
      fun its => touched ⟨visit, planned, body, revised, its⟩
    have elsewhere' (visit : Visit) (planned : visit ∈ others) :=
      elsewhere visit ((same visit).mpr planned)
    exact (lookup?_after_of_parted parted elsewhere).trans
      (lookup?_after_of_parted parted' elsewhere').symm

/-- Visits of different scopes leave the same store in whatever order they are made. -/
theorem after_of_mem_iff (parted : Parted visits) (parted' : Parted others)
    (same : ∀ visit, visit ∈ visits ↔ visit ∈ others) :
    pass.after store (visits.map .visit) = pass.after store (others.map .visit) :=
  MemoryStore.ext_lookup?
    ((definitions_after pass store _).trans (definitions_after pass store _).symm)
    (lookup?_after_of_mem_iff parted parted' same)

theorem smooth_of_mem_iff (parted : Parted visits) (parted' : Parted others)
    (same : ∀ visit, visit ∈ visits ↔ visit ∈ others) :
    pass.Smooth store (visits.map .visit) ↔ pass.Smooth store (others.map .visit) := by
  rw [smooth_iff_of_parted parted, smooth_iff_of_parted parted']
  exact forall_congr' fun visit => imp_congr_left (same visit)

end Pass

namespace Enrolment

section SameKeys

variable {workload : Reference} {space : String}
  (inSpace : workload.space? = some space) {desired desired' : List Resource}
  {recorded recorded' : List Reference}
  (sameDesired : ∀ key, key ∈ desired.map (fun scope => scope.reference.scopeKey workload) ↔
    key ∈ desired'.map fun scope => scope.reference.scopeKey workload)
include inSpace sameDesired

theorem mem_toAdd_congr (key : Reference) :
    key ∈ (ScopePlan.of workload desired recorded).toAdd ↔
      key ∈ (ScopePlan.of workload desired' recorded').toAdd := by
  rw [ScopePlan.mem_toAdd_iff inSpace, ScopePlan.mem_toAdd_iff inSpace, ← List.mem_map,
    ← List.mem_map]
  exact sameDesired key

variable (sameRecorded : ∀ key, key ∈ recorded.map (fun scope => scope.scopeKey workload) ↔
  key ∈ recorded'.map fun scope => scope.scopeKey workload)
include sameRecorded

theorem mem_toRemove_congr (key : Reference) :
    key ∈ (ScopePlan.of workload desired recorded).toRemove ↔
      key ∈ (ScopePlan.of workload desired' recorded').toRemove := by
  have undesired (scopes : List Resource) :
      (∀ scope ∈ scopes, scope.reference.scopeKey workload ≠ key) ↔
        key ∉ scopes.map fun scope => scope.reference.scopeKey workload := by
    simp
  rw [ScopePlan.mem_toRemove_iff inSpace, ScopePlan.mem_toRemove_iff inSpace, ← List.mem_map,
    ← List.mem_map, undesired, undesired, sameRecorded, sameDesired]

theorem mem_visits_congr (visit : Visit) :
    visit ∈ visits workload (ScopePlan.of workload desired recorded) ↔
      visit ∈ visits workload (ScopePlan.of workload desired' recorded') := by
  rw [mem_visits_iff, mem_visits_iff, mem_toAdd_congr inSpace sameDesired,
    mem_toRemove_congr inSpace sameDesired sameRecorded]

end SameKeys

theorem mem_revisedKeys_congr {config : Config} {store : MemoryStore} {joins : Bool}
    {member : Reference} {keys others : List Reference} (same : ∀ key, key ∈ keys ↔ key ∈ others)
    (key : Reference) :
    key ∈ revisedKeys config store joins member keys ↔
      key ∈ revisedKeys config store joins member others := by
  rw [revisedKeys, revisedKeys, List.mem_filter, List.mem_filter, same]

/-- For a workload in a namespace a reconciliation depends on which scopes are desired and recorded
and on nothing else in these lists: it succeeds or fails alike, and where it succeeds it leaves the
same store and tells the same scopes. -/
theorem reconcile_regardless_of_order (config : Config) (workload : Reference) (space : String)
    (inSpace : workload.space? = some space) (desired desired' : List Resource)
    (recorded recorded' : List Reference)
    (sameDesired : ∀ key, key ∈ desired.map (fun scope => scope.reference.scopeKey workload) ↔
      key ∈ desired'.map fun scope => scope.reference.scopeKey workload)
    (sameRecorded : ∀ key, key ∈ recorded.map (fun scope => scope.scopeKey workload) ↔
      key ∈ recorded'.map fun scope => scope.scopeKey workload) (store : MemoryStore) :
    let run := (reconcile config workload desired recorded).run MemoryStore.world store
    let other := (reconcile config workload desired' recorded').run MemoryStore.world store
    ((∃ changes, run.result = .ok changes) ↔ ∃ changes, other.result = .ok changes) ∧
    ∀ changes changes', run.result = .ok changes → other.result = .ok changes' →
      run.state = other.state ∧
      (∀ key, key ∈ changes.added ↔ key ∈ changes'.added) ∧
      ∀ key, key ∈ changes.removed ↔ key ∈ changes'.removed := by
  intro run other
  have parted := parted_visits workload workload desired recorded
  have parted' := parted_visits workload workload desired' recorded'
  have same := mem_visits_congr inSpace sameDesired sameRecorded
  constructor
  · obtain ⟨smooth, -⟩ := Pass.run_of_ignore (ignore_carryOut_eq_perform config workload
      (ScopePlan.of workload desired recorded)) store
    obtain ⟨smooth', -⟩ := Pass.run_of_ignore (ignore_carryOut_eq_perform config workload
      (ScopePlan.of workload desired' recorded')) store
    exact smooth.trans ((Pass.smooth_of_mem_iff parted parted' same).trans smooth'.symm)
  · intro changes changes' succeeded succeeded'
    obtain ⟨added, removed⟩ := result_carryOut parted succeeded
    obtain ⟨added', removed'⟩ := result_carryOut parted' succeeded'
    refine ⟨?_, ?_, ?_⟩
    · exact (state_of_success succeeded).trans
        ((Pass.after_of_mem_iff parted parted' same).trans (state_of_success succeeded').symm)
    · rw [added, added']
      exact mem_revisedKeys_congr (mem_toAdd_congr inSpace sameDesired)
    · rw [removed, removed']
      exact mem_revisedKeys_congr (mem_toRemove_congr inSpace sameDesired sameRecorded)

def lodger : Reference := { apiVersion := "v1", kind := "Web", name := "w", space? := some "n" }

def lodgings : MemoryStore :=
  .holding [.scopeWith "n" "s" { lodger with name := "other" },
    .scopeWith "n" "t" { lodger with name := "other" }, .scopeWith "n" "u" lodger]

theorem reconcile_lodger_regardless_of_order :
    let scope (name : String) : Resource := .new "v1" "Scope" name
    let desired := [scope "s", scope "t"]
    let desired' := [scope "t", (scope "s").withNamespace "n", scope "t"]
    let recorded := [(scope "u").reference]
    let recorded' := [(scope "u").reference, (scope "u").reference]
    let run := (reconcile {} lodger desired recorded).run MemoryStore.world lodgings
    let other := (reconcile {} lodger desired' recorded').run MemoryStore.world lodgings
    ∃ changes changes', run.result = .ok changes ∧ other.result = .ok changes' ∧
      changes ≠ changes' ∧ run.state = other.state ∧
      (∀ key, key ∈ changes.added ↔ key ∈ changes'.added) ∧
      ∀ key, key ∈ changes.removed ↔ key ∈ changes'.removed := by
  intro scope desired desired' recorded recorded' run other
  let key (name : String) : Reference :=
    { apiVersion := "v1", kind := "Scope", name := name, space? := some "n" }
  have succeeded : run.result = .ok { added := [key "s", key "t"], removed := [key "u"] } := by
    decide +kernel
  have succeeded' : other.result = .ok { added := [key "t", key "s"], removed := [key "u"] } := by
    decide +kernel
  have wanted : desired.map (fun scope => scope.reference.scopeKey lodger) =
      [key "s", key "t"] := by decide
  have wanted' : desired'.map (fun scope => scope.reference.scopeKey lodger) =
      [key "t", key "s", key "t"] := by decide
  have known : recorded.map (fun scope => scope.scopeKey lodger) = [key "u"] := by decide
  have known' : recorded'.map (fun scope => scope.scopeKey lodger) = [key "u", key "u"] := by decide
  obtain ⟨-, alike⟩ := reconcile_regardless_of_order {} lodger "n" rfl desired desired' recorded
    recorded' (by rw [wanted, wanted']; grind) (by rw [known, known']; grind) lodgings
  exact ⟨_, _, succeeded, succeeded', by decide, alike _ _ succeeded succeeded'⟩

end Enrolment

end Rollout
