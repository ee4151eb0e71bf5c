import Rollout.Proofs.Reconciliation

/-! Which desired scopes a plan keeps. A key stands for all later ones that it matches, but keys of
one API version, kind and name match in pairs only: of these the first decides whether those that
tell a namespace are kept or the one that does not. What is kept is joined. -/

set_option autoImplicit false

namespace Rollout

namespace Reference

theorem matches_of_spaceless {left right : Reference} (alike : left.Alike right)
    (spaceless : left.space? = none ∨ right.space? = none) : left.Matches right := by
  obtain ⟨version, kind, name⟩ := alike
  exact ⟨version, kind, name, by rcases spaceless with absent | absent <;> simp [absent]⟩

theorem Matches.space?_eq {left right : Reference} (matching : left.Matches right)
    (both : left.space? = none ↔ right.space? = none) : left.space? = right.space? := by
  obtain ⟨-, -, -, space⟩ := matching
  rcases space with absent | absent | same
  · exact absent.trans (both.mp absent).symm
  · exact (both.mpr absent).trans absent.symm
  · exact same

theorem eq_of_alike_of_space? {left right : Reference} (alike : left.Alike right)
    (space : left.space? = right.space?) (uid : left.uid? = right.uid?) : left = right := by
  obtain ⟨version, kind, name⟩ := alike
  cases left
  cases right
  simp_all

end Reference

namespace ScopePlan

theorem eq_of_mem_collect {seen keys : List Reference} {one other : Reference}
    (first : one ∈ collect seen keys) (second : other ∈ collect seen keys)
    (matching : one.Matches other) : one = other :=
  eq_of_pairwise_not (fun _ _ => Reference.Matches.symm) (pairwise_collect seen keys) first second
    matching

theorem mem_collect_of_find? {keys seen : List Reference} {key first : Reference}
    (found : keys.find? (fun other => other.Alike key) = some first)
    (unseen : ∀ other ∈ seen, ¬ other.Alike key) : first ∈ collect seen keys := by
  induction keys generalizing seen with
  | nil => cases found
  | cons head rest ih =>
      rw [collect]
      by_cases alike : head.Alike key
      · rw [List.find?_cons, decide_eq_true alike] at found
        cases found
        rw [if_neg ?_]
        · exact List.mem_cons_self
        · intro matched
          obtain ⟨other, present, matching⟩ := List.any_eq_true.mp matched
          exact unseen other present ((of_decide_eq_true matching).alike.trans alike)
      · rw [List.find?_cons, decide_eq_false alike] at found
        split
        · exact ih found unseen
        · refine List.mem_cons_of_mem _ (ih found ?_)
          intro other present
          rcases List.mem_cons.mp present with rfl | earlier
          · exact alike
          · exact unseen other earlier

theorem exists_find?_of_mem {keys : List Reference} {key : Reference} (member : key ∈ keys) :
    ∃ first, keys.find? (fun other => other.Alike key) = some first := by
  cases found : keys.find? fun other => other.Alike key with
  | none =>
      have differs := List.find?_eq_none.mp found key member
      exact absurd (decide_eq_true (Reference.Matches.refl key).alike) differs
  | some first => exact ⟨first, rfl⟩

theorem mem_collect_iff {keys : List Reference} {key first : Reference} (member : key ∈ keys)
    (noUid : ∀ key ∈ keys, key.uid? = none)
    (found : keys.find? (fun other => other.Alike key) = some first) :
    key ∈ collect [] keys ↔ (first.space? = none ↔ key.space? = none) := by
  have alike : first.Alike key := by simpa using List.find?_some found
  have kept : first ∈ collect [] keys := mem_collect_of_find? found nofun
  have spaced {one other : Reference} (first : one ∈ collect [] keys)
      (second : other ∈ collect [] keys) (alike : one.Alike other) :
      one.space? = none ↔ other.space? = none := by
    by_cases matching : one.Matches other
    · rw [eq_of_mem_collect first second matching]
    · have spaced (spaceless : one.space? = none ∨ other.space? = none) : False :=
        matching (Reference.matches_of_spaceless alike spaceless)
      exact iff_of_false (fun absent => spaced (.inl absent)) (fun absent => spaced (.inr absent))
  constructor
  · intro present
    exact spaced kept present alike
  · intro both
    obtain ⟨planned, present, matching⟩ := exists_matches_of_mem member []
    have present := present.resolve_left List.not_mem_nil
    have space := (spaced kept present (alike.trans matching.alike.symm)).symm.trans both
    have same : planned = key := by
      refine Reference.eq_of_alike_of_space? matching.alike (matching.space?_eq space) ?_
      exact (noUid planned (mem_of_mem_collect present)).trans (noUid key member).symm
    exact same ▸ present

/-- Of the desired keys with this API version, kind and name the first tells a namespace where the
key tells none, or tells none where it does. -/
def Eclipsed (workload : Reference) (desired : List Resource) (key : Reference) : Prop :=
  ∃ first ∈ (desired.map fun scope => scope.reference.scopeKey workload).find? fun other =>
      other.Alike key,
    ¬ (first.space? = none ↔ key.space? = none)

instance (workload : Reference) (desired : List Resource) (key : Reference) :
    Decidable (Eclipsed workload desired key) := by
  unfold Eclipsed; infer_instance

variable {workload key : Reference} {desired : List Resource}

theorem eclipsed_iff {first : Reference}
    (found : (desired.map fun scope => scope.reference.scopeKey workload).find?
      (fun other => other.Alike key) = some first) :
    Eclipsed workload desired key ↔ ¬ (first.space? = none ↔ key.space? = none) := by
  simp [Eclipsed, found]

theorem mem_toAdd_iff_not_eclipsed {scope : Resource} (wanted : scope ∈ desired)
    (recorded : List Reference) :
    scope.reference.scopeKey workload ∈ (of workload desired recorded).toAdd ↔
      ¬ Eclipsed workload desired (scope.reference.scopeKey workload) := by
  have asked : scope.reference.scopeKey workload ∈
      desired.map fun scope => scope.reference.scopeKey workload :=
    List.mem_map_of_mem wanted
  have noUid : ∀ key ∈ desired.map fun scope => scope.reference.scopeKey workload,
      key.uid? = none := by
    intro key member
    obtain ⟨_, -, rfl⟩ := List.mem_map.mp member
    rfl
  obtain ⟨first, found⟩ := exists_find?_of_mem asked
  rw [eclipsed_iff found, not_not]
  exact mem_collect_iff asked noUid found

theorem not_eclipsed_of_space? {space : String} (inSpace : workload.space? = some space)
    (scope : Reference) : ¬ Eclipsed workload desired (scope.scopeKey workload) := by
  intro eclipsed
  obtain ⟨first, found, differ⟩ := eclipsed
  obtain ⟨other, -, rfl⟩ := List.mem_map.mp (List.mem_of_find?_eq_some found)
  obtain ⟨-, one, inOne⟩ := Reference.placed_scopeKey inSpace other.reference
  obtain ⟨-, its, inIts⟩ := Reference.placed_scopeKey inSpace scope
  exact differ (by simp [inOne, inIts])

end ScopePlan

namespace Enrolment

open ScopePlan (Eclipsed)

/-- A desired scope is planned for unless it is eclipsed, which it can be only if the workload has
no namespace. A reconciliation that succeeds lists the workload in a scope that the desired one may
be, and in that itself if it is not eclipsed. -/
theorem joins_desired_unless_eclipsed (workload : Reference) (desired : List Resource)
    (recorded : List Reference) (scope : Resource) (wanted : scope ∈ desired) :
    let key := scope.reference.scopeKey workload
    let plan := ScopePlan.of workload desired recorded
    (key ∈ plan.toAdd ↔ ¬ Eclipsed workload desired key) ∧
    (workload.space? ≠ none → ¬ Eclipsed workload desired key) ∧
    ∀ (config : Config) (store : MemoryStore) (changes : Changes),
      let run := (reconcile config workload desired recorded).run MemoryStore.world store
      run.result = .ok changes →
        ∃ planned ∈ plan.toAdd, planned.Matches key ∧
          (¬ Eclipsed workload desired key → planned = key) ∧
            ∃ object, run.state.get planned = .ok object ∧ Lists config object workload := by
  intro key plan
  have kept : key ∈ plan.toAdd ↔ ¬ Eclipsed workload desired key :=
    ScopePlan.mem_toAdd_iff_not_eclipsed wanted recorded
  refine ⟨kept, ?_, ?_⟩
  · intro spaced
    obtain ⟨space, inSpace⟩ := Option.ne_none_iff_exists'.mp spaced
    exact ScopePlan.not_eclipsed_of_space? inSpace scope.reference
  · intro config store changes run succeeded
    have parted := parted_visits workload workload desired recorded
    have listed (planned : Reference) (toAdd : planned ∈ plan.toAdd) :=
      listed_of_success parted succeeded toAdd
    by_cases eclipsed : Eclipsed workload desired key
    · have asked : key ∈ desired.map fun scope => scope.reference.scopeKey workload :=
        List.mem_map_of_mem wanted
      obtain ⟨planned, present, matching⟩ := ScopePlan.exists_matches_of_mem asked []
      have toAdd : planned ∈ plan.toAdd := present.resolve_left List.not_mem_nil
      exact ⟨planned, toAdd, matching, fun clear => absurd eclipsed clear, listed planned toAdd⟩
    · have toAdd := kept.mpr eclipsed
      exact ⟨key, toAdd, .refl key, fun _ => rfl, listed key toAdd⟩

theorem joins_scopes_of_two_namespaces :
    let scope (space : String) := (Resource.new "v1" "Scope" "s").withNamespace space
    let desired := [scope "a", scope "b", .new "v1" "Scope" "s"]
    let store := MemoryStore.holding [scope "a", scope "b"]
    let run := (reconcile {} tenant desired []).run MemoryStore.world store
    scope "b" ∈ desired ∧
      run.result = .ok { added := [(scope "a").reference, (scope "b").reference] } ∧
        ∃ object, run.state.get (scope "b").reference = .ok object ∧ Lists {} object tenant := by
  intro scope desired store run
  have wanted : scope "b" ∈ desired := by decide
  have succeeded : run.result =
      .ok { added := [(scope "a").reference, (scope "b").reference] } := by decide
  obtain ⟨-, -, joins⟩ := joins_desired_unless_eclipsed tenant desired [] (scope "b") wanted
  obtain ⟨planned, -, -, same, object, there, lists⟩ := joins {} store _ succeeded
  rw [same (by decide)] at there
  exact ⟨wanted, succeeded, object, there, lists⟩

/-- A desired scope is lost behind one that may be it but is another. -/
theorem loses_eclipsed_scope :
    let desired := [.new "v1" "Scope" "s", (Resource.new "v1" "Scope" "s").withNamespace "a"]
    let store := MemoryStore.holding desired
    let run := (reconcile {} tenant desired []).run MemoryStore.world store
    (¬ ∀ scope ∈ desired, ∃ planned ∈ (ScopePlan.of tenant desired []).toAdd,
      planned.Alike (scope.reference.scopeKey tenant) ∧
        planned.space? = (scope.reference.scopeKey tenant).space?) ∧
    run.result = .ok { added := [{ apiVersion := "v1", kind := "Scope", name := "s" }] } ∧
    ¬ ∀ scope ∈ desired, ∃ object,
      run.state.get (scope.reference.scopeKey tenant) = .ok object ∧ Lists {} object tenant := by
  intro desired store run
  refine ⟨by decide, by decide, ?_⟩
  intro listed
  let lost := (Resource.new "v1" "Scope" "s").withNamespace "a"
  obtain ⟨object, there, lists⟩ := listed lost (by decide)
  have kept : run.state.get (lost.reference.scopeKey tenant) = .ok lost := by decide
  obtain rfl : lost = object := by simpa [kept] using there
  have empty : members {} lost = .ok [] := by decide
  obtain ⟨entry, impossible, -⟩ := (lists_iff empty tenant).mp lists
  cases impossible

end Enrolment

end Rollout
