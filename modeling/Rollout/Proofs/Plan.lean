import Rollout.Scope.Plan
import Rollout.Workload

/-! What a scope plan holds. Keys are visited only if they are desired or recorded, and a key to
leave matches no key to join. Keys that all lie in a namespace match only themselves, so that
then nothing is missing from the plan. -/

set_option autoImplicit false

namespace Rollout

theorem eq_of_pairwise_not {α : Type} {related : α → α → Prop}
    (symmetric : ∀ one other, related one other → related other one) {items : List α}
    (apart : items.Pairwise fun one other => ¬ related one other) {one other : α}
    (first : one ∈ items) (second : other ∈ items) (both : related one other) : one = other := by
  have only := List.Pairwise.forall_of_forall_of_flip
    (R := fun left right => related left right → left = right) (fun _ _ _ => rfl)
    (apart.imp fun unrelated both => absurd both unrelated)
    (apart.imp fun unrelated both => absurd (symmetric _ _ both) unrelated)
  exact only first second both

namespace Reference

/-- A reference that can name one stored object only. -/
def Placed (key : Reference) : Prop := key.uid? = none ∧ ∃ space, key.space? = some space

theorem Placed.eq_of_matches {left right : Reference} (first : left.Placed) (second : right.Placed)
    (matching : left.Matches right) : left = right := by
  obtain ⟨version, kind, name, space⟩ := matching
  obtain ⟨noUid, one, inOne⟩ := first
  obtain ⟨noUid', other, inOther⟩ := second
  have sameSpace : left.space? = right.space? := by
    rcases space with absent | absent | same
    · rw [inOne] at absent
      cases absent
    · rw [inOther] at absent
      cases absent
    · exact same
  cases left
  cases right
  simp only [Reference.mk.injEq]
  exact ⟨version, kind, name, sameSpace, noUid.trans noUid'.symm⟩

/-- Only a reference without a namespace matches two that do not match each other. -/
theorem spaceless_of_matches {left middle right : Reference} (first : left.Matches middle)
    (second : middle.Matches right) (apart : ¬ left.Matches right) : middle.space? = none := by
  obtain ⟨version, kind, name, space⟩ := first
  obtain ⟨version', kind', name', space'⟩ := second
  cases own : middle.space? with
  | none => rfl
  | some common =>
      refine absurd ⟨version.trans version', kind.trans kind', name.trans name', ?_⟩ apart
      rw [own] at space space'
      rcases space with absent | impossible | same
      · exact .inl absent
      · cases impossible
      · rcases space' with impossible | absent | same'
        · cases impossible
        · exact .inr (.inl absent)
        · exact .inr (.inr (same.trans same'))

theorem scopeKey_eq_none {scope workload : Reference}
    (spaceless : (scope.scopeKey workload).space? = none) :
    scope.space? = none ∧ workload.space? = none := by
  cases own : scope.space? with
  | some space => simp [scopeKey, inheritNamespace, withoutUid, own] at spaceless
  | none => exact ⟨rfl, by simpa [scopeKey, inheritNamespace, withoutUid, own] using spaceless⟩

theorem placed_scopeKey {workload : Reference} {space : String}
    (inSpace : workload.space? = some space) (scope : Reference) :
    (scope.scopeKey workload).Placed := by
  refine ⟨rfl, ?_⟩
  cases own : scope.space? with
  | some other => exact ⟨other, by simp [scopeKey, inheritNamespace, withoutUid, own]⟩
  | none => exact ⟨space, by simp [scopeKey, inheritNamespace, withoutUid, own, inSpace]⟩

end Reference

def Workload.Undesired (workload : Workload) (key : Reference) : Prop :=
  ∀ scope ∈ workload.scopes, ¬ (scope.reference.scopeKey workload.reference).Matches key

instance (workload : Workload) (key : Reference) : Decidable (workload.Undesired key) := by
  unfold Workload.Undesired; infer_instance

namespace ScopePlan

theorem mem_of_mem_collect {seen keys : List Reference} {key : Reference}
    (member : key ∈ collect seen keys) : key ∈ keys := by
  induction keys generalizing seen with
  | nil => cases member
  | cons first rest ih =>
      rw [collect] at member
      split at member
      · exact List.mem_cons_of_mem first (ih member)
      · rcases List.mem_cons.mp member with same | later
        · exact same ▸ List.mem_cons_self
        · exact List.mem_cons_of_mem first (ih later)

theorem not_matches_of_mem_collect {seen keys : List Reference} {key : Reference}
    (member : key ∈ collect seen keys) : ∀ other ∈ seen, ¬ other.Matches key := by
  induction keys generalizing seen with
  | nil => cases member
  | cons first rest ih =>
      rw [collect] at member
      split at member
      · exact ih member
      · rename_i unseen
        intro other present
        rcases List.mem_cons.mp member with same | later
        · subst same
          intro matching
          exact unseen (List.any_eq_true.mpr ⟨other, present, decide_eq_true matching⟩)
        · exact ih later other (List.mem_cons_of_mem first present)

theorem pairwise_collect (seen keys : List Reference) :
    (collect seen keys).Pairwise fun one other => ¬ one.Matches other := by
  induction keys generalizing seen with
  | nil => exact .nil
  | cons first rest ih =>
      rw [collect]
      split
      · exact ih seen
      · refine List.pairwise_cons.mpr ⟨?_, ih (first :: seen)⟩
        intro other member
        exact not_matches_of_mem_collect member first List.mem_cons_self

theorem exists_matches_of_mem {keys : List Reference} {key : Reference} (member : key ∈ keys)
    (seen : List Reference) : ∃ other, (other ∈ seen ∨ other ∈ collect seen keys) ∧
      other.Matches key := by
  induction keys generalizing seen with
  | nil => cases member
  | cons first rest ih =>
      rw [collect]
      rcases List.mem_cons.mp member with same | later
      · subst same
        split
        · rename_i found
          obtain ⟨other, present, matching⟩ := List.any_eq_true.mp found
          exact ⟨other, .inl present, of_decide_eq_true matching⟩
        · exact ⟨key, .inr List.mem_cons_self, Reference.Matches.refl key⟩
      · split
        · exact ih later seen
        · obtain ⟨other, present, matching⟩ := ih later (first :: seen)
          refine ⟨other, ?_, matching⟩
          rcases present with old | new
          · rcases List.mem_cons.mp old with same | older
            · exact .inr (same ▸ List.mem_cons_self)
            · exact .inl older
          · exact .inr (List.mem_cons_of_mem first new)

variable {workload : Reference} {desired : List Resource} {recorded : List Reference}
  {key : Reference}

theorem desired_of_mem_toAdd (member : key ∈ (of workload desired recorded).toAdd) :
    ∃ scope ∈ desired, scope.reference.scopeKey workload = key :=
  List.mem_map.mp (mem_of_mem_collect member)

theorem recorded_of_mem_toRemove (member : key ∈ (of workload desired recorded).toRemove) :
    (∃ scope ∈ recorded, scope.scopeKey workload = key) ∧
      ∀ other ∈ (of workload desired recorded).toAdd, ¬ other.Matches key :=
  ⟨List.mem_map.mp (mem_of_mem_collect member), not_matches_of_mem_collect member⟩

theorem exists_mem_toAdd {scope : Resource} (wanted : scope ∈ desired) (workload : Reference)
    (recorded : List Reference) : ∃ key ∈ (of workload desired recorded).toAdd,
      key.Matches (scope.reference.scopeKey workload) := by
  have asked : scope.reference.scopeKey workload ∈
      desired.map fun scope => scope.reference.scopeKey workload :=
    List.mem_map_of_mem wanted
  obtain ⟨key, impossible | toAdd, matching⟩ := exists_matches_of_mem asked []
  · cases impossible
  · exact ⟨key, toAdd, matching⟩

theorem exists_mem_of_recorded {scope : Reference} (known : scope ∈ recorded)
    (workload : Reference) (desired : List Resource) :
    ∃ key, (key ∈ (of workload desired recorded).toAdd ∨
      key ∈ (of workload desired recorded).toRemove) ∧ key.Matches (scope.scopeKey workload) := by
  have asked : scope.scopeKey workload ∈ recorded.map fun scope => scope.scopeKey workload :=
    List.mem_map_of_mem known
  exact exists_matches_of_mem asked (of workload desired recorded).toAdd

theorem placed_of_mem {space : String} (inSpace : workload.space? = some space)
    (member : key ∈ (of workload desired recorded).toAdd ∨
      key ∈ (of workload desired recorded).toRemove) : key.Placed := by
  rcases member with joined | left
  · obtain ⟨scope, -, rfl⟩ := desired_of_mem_toAdd joined
    exact Reference.placed_scopeKey inSpace scope.reference
  · obtain ⟨⟨scope, -, rfl⟩, -⟩ := recorded_of_mem_toRemove left
    exact Reference.placed_scopeKey inSpace scope

theorem mem_toAdd_iff {space : String} (inSpace : workload.space? = some space) :
    key ∈ (of workload desired recorded).toAdd ↔
      ∃ scope ∈ desired, scope.reference.scopeKey workload = key := by
  constructor
  · exact desired_of_mem_toAdd
  · intro wanted
    obtain ⟨scope, member, rfl⟩ := wanted
    obtain ⟨other, planned, matching⟩ := exists_mem_toAdd member workload recorded
    have same := (placed_of_mem inSpace (.inl planned)).eq_of_matches
      (Reference.placed_scopeKey inSpace scope.reference) matching
    exact same ▸ planned

/-- A recorded scope may be one that is still desired, or it is left. A workload in a namespace
leaves it under its own key, as no other matches that. -/
theorem desired_or_left (workload : Reference) (desired : List Resource) {scope : Reference}
    (known : scope ∈ recorded) :
    (∃ wanted ∈ desired,
        (wanted.reference.scopeKey workload).Matches (scope.scopeKey workload)) ∨
      ∃ left ∈ (of workload desired recorded).toRemove, left.Matches (scope.scopeKey workload) ∧
        (workload.space? ≠ none → left = scope.scopeKey workload) := by
  obtain ⟨other, present, matching⟩ := exists_mem_of_recorded known workload desired
  rcases present with joined | left
  · obtain ⟨wanted, inDesired, rfl⟩ := desired_of_mem_toAdd joined
    exact .inl ⟨wanted, inDesired, matching⟩
  · refine .inr ⟨other, left, matching, ?_⟩
    intro spaced
    obtain ⟨space, inSpace⟩ := Option.ne_none_iff_exists'.mp spaced
    have placed := Reference.placed_scopeKey inSpace scope
    exact (placed_of_mem inSpace (.inr left)).eq_of_matches placed matching

theorem mem_toRemove_iff {space : String} (inSpace : workload.space? = some space) :
    key ∈ (of workload desired recorded).toRemove ↔
      (∃ scope ∈ recorded, scope.scopeKey workload = key) ∧
        ∀ scope ∈ desired, scope.reference.scopeKey workload ≠ key := by
  constructor
  · intro member
    obtain ⟨known, apart⟩ := recorded_of_mem_toRemove member
    refine ⟨known, ?_⟩
    intro scope present same
    exact apart key ((mem_toAdd_iff inSpace).mpr ⟨scope, present, same⟩) (.refl key)
  · intro dropped
    obtain ⟨⟨scope, known, rfl⟩, undesired⟩ := dropped
    have placed (other : Reference) := Reference.placed_scopeKey inSpace other
    rcases desired_or_left workload desired known with
      ⟨wanted, inDesired, matching⟩ | ⟨left, toRemove, -, same⟩
    · exact absurd ((placed _).eq_of_matches (placed scope) matching) (undesired wanted inDesired)
    · have spaced : workload.space? ≠ none := by simp [inSpace]
      exact same spaced ▸ toRemove

end ScopePlan

end Rollout
