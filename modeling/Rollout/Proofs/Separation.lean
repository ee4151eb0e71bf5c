import Rollout.Proofs.Progress

/-! Scope plans keep scopes apart. No two keys of a plan may be of one scope, be it to be joined or
to be left, so that a reconciliation writes no object twice. A plan keeps keys in the order in which
it meets them first, and every scope that it was given is one that some key of it may name. -/

set_option autoImplicit false

namespace Rollout

namespace ScopePlan

/-- Keys that are kept stand in the order in which they occur first. -/
def InOrderOf (keys kept : List Reference) : Prop :=
  kept.Pairwise fun one other => keys.idxOf one < keys.idxOf other

theorem InOrderOf.cons {keys kept : List Reference} {first : Reference}
    (ordered : InOrderOf keys kept) (others : ∀ key ∈ kept, key ≠ first) :
    InOrderOf (first :: keys) kept := by
  refine List.Pairwise.imp_of_mem ?_ ordered
  intro one other present present' before
  rw [List.idxOf_cons_ne keys (others one present).symm,
    List.idxOf_cons_ne keys (others other present').symm]
  exact Nat.succ_lt_succ before

theorem inOrderOf_collect (seen keys : List Reference) : InOrderOf keys (collect seen keys) := by
  induction keys generalizing seen with
  | nil => exact .nil
  | cons first rest ih =>
      rw [collect]
      split
      · rename_i found
        obtain ⟨other, present, matching⟩ := List.any_eq_true.mp found
        refine (ih seen).cons ?_
        rintro key kept rfl
        exact not_matches_of_mem_collect kept other present (of_decide_eq_true matching)
      · have others (key : Reference) (kept : key ∈ collect (first :: seen) rest) :
            key ≠ first := by
          rintro rfl
          exact not_matches_of_mem_collect kept key List.mem_cons_self (.refl key)
        refine List.pairwise_cons.mpr ⟨?_, (ih (first :: seen)).cons others⟩
        intro key kept
        rw [List.idxOf_cons_self, List.idxOf_cons_ne rest (others key kept).symm]
        exact Nat.succ_pos _

end ScopePlan

namespace Enrolment

variable {config : Config}

/-- No object is written by both calls. -/
def WriteApart (one other : Call) : Prop := ∀ key, ¬ (one.Writes key ∧ other.Writes key)

namespace Visit

theorem found_of_writes {visit : Visit} {held : Option Resource} {exchange : Exchange}
    (heard : exchange ∈ visit.talk config held) {key : Key} (writes : exchange.1.Writes key) :
    ∃ scope, held = some scope ∧ scope.key = key := by
  rcases List.mem_cons.mp heard with rfl | updated
  · cases writes
  · obtain ⟨body, revised, rfl⟩ := List.mem_map.mp updated
    have revised := Option.mem_toList.mp revised
    obtain ⟨scope, found, -, same⟩ := found_of_revised? revised
    exact ⟨scope, found, same.symm.trans writes⟩

theorem pairwise_talk (config : Config) (visit : Visit) (held : Option Resource) :
    (visit.talk config held).Pairwise fun one other => WriteApart one.1 other.1 := by
  refine List.pairwise_cons.mpr ⟨?_, ?_⟩
  · rintro exchange - key ⟨impossible, -⟩
    cases impossible
  · cases visit.revised? config held with
    | none => exact .nil
    | some body => exact List.pairwise_singleton _ _

end Visit

theorem Comes.writeApart {store last : MemoryStore} {visits : List Visit} {said : List Exchange}
    {result : Except ApplyError Unit} (comes : Comes config store visits said result last)
    (parted : Parted visits) : said.Pairwise fun one other => WriteApart one.1 other.1 := by
  refine List.Pairwise.sublist comes.said_prefix.sublist (List.pairwise_flatMap.mpr ⟨?_, ?_⟩)
  · intro visit _
    exact visit.pairwise_talk config _
  · refine parted.imp ?_
    intro one other apart first heard second heard' key both
    obtain ⟨scope, found, its⟩ := Visit.found_of_writes heard both.1
    obtain ⟨scope', found', its'⟩ := Visit.found_of_writes heard' both.2
    exact apart (MemoryStore.matches_of_find? found found' (its.trans its'.symm))

theorem writeApart_run (config : Config) (workload : Reference) (desired : List Resource)
    (recorded : List Reference) (store : MemoryStore) :
    ((reconcile config workload desired recorded).run MemoryStore.world store).calls.Pairwise
      WriteApart := by
  have parted := parted_visits workload workload desired recorded
  have comes := comes_carryOut config MemoryStore.serves_world parted store
  rw [Run.calls_eq]
  exact List.pairwise_map.mpr (comes.writeApart parted)

theorem keys_visits (member : Reference) (plan : ScopePlan) :
    (visits member plan).map Visit.key = plan.toAdd ++ plan.toRemove := by
  simp [visits, Function.comp_def]

theorem pairwise_keys (workload : Reference) (desired : List Resource)
    (recorded : List Reference) :
    let plan := ScopePlan.of workload desired recorded
    (plan.toAdd ++ plan.toRemove).Pairwise fun one other => ¬ one.Matches other := by
  intro plan
  rw [← keys_visits workload plan]
  exact List.pairwise_map.mpr (parted_visits workload workload desired recorded)

/-- The keys of a plan are those of its scopes in order, but for those that may name a scope which
is visited already. No two of them find one object in a store, and no object is written twice. -/
theorem plan_separates (workload : Reference) (desired : List Resource)
    (recorded : List Reference) :
    let plan := ScopePlan.of workload desired recorded
    let keys := plan.toAdd ++ plan.toRemove
    (keys.Pairwise fun one other => ¬ one.Matches other ∧ ¬ other.Matches one) ∧
    (∀ store : MemoryStore, keys.Pairwise fun one other => ∀ first second,
      store.get one = .ok first → store.get other = .ok second → first.key ≠ second.key) ∧
    (∀ config store, ((reconcile config workload desired recorded).run MemoryStore.world
      store).calls.Pairwise fun one other => ∀ key, ¬ (one.Writes key ∧ other.Writes key)) ∧
    (∀ key ∈ plan.toAdd, ∃ scope ∈ desired, key =
      { scope.reference with
        space? := scope.reference.space? <|> workload.space?, uid? := none }) ∧
    (∀ key ∈ plan.toRemove, ∃ scope ∈ recorded, key =
      { scope with space? := scope.space? <|> workload.space?, uid? := none }) ∧
    ScopePlan.InOrderOf (desired.map fun scope => scope.reference.scopeKey workload) plan.toAdd ∧
    ScopePlan.InOrderOf (recorded.map fun scope => scope.scopeKey workload) plan.toRemove ∧
    (∀ scope ∈ desired, ∃ key ∈ plan.toAdd, key.Matches (scope.reference.scopeKey workload)) ∧
    ∀ scope ∈ recorded, ∃ key ∈ keys, key.Matches (scope.scopeKey workload) := by
  intro plan keys
  have apart : keys.Pairwise fun one other => ¬ one.Matches other :=
    pairwise_keys workload desired recorded
  refine ⟨?_, ?_, fun config store => writeApart_run config workload desired recorded store, ?_, ?_,
    ScopePlan.inOrderOf_collect [] _, ScopePlan.inOrderOf_collect plan.toAdd _, ?_, ?_⟩
  · exact apart.imp fun unmatched => ⟨unmatched, fun matching => unmatched matching.symm⟩
  · intro store
    refine apart.imp ?_
    intro one other unmatched first second found found' same
    exact unmatched (MemoryStore.matches_of_find? (MemoryStore.get_eq_ok_iff.mp found)
      (MemoryStore.get_eq_ok_iff.mp found') same)
  · intro key toAdd
    obtain ⟨scope, wanted, its⟩ := ScopePlan.desired_of_mem_toAdd toAdd
    exact ⟨scope, wanted, its.symm⟩
  · intro key toRemove
    obtain ⟨⟨scope, known, its⟩, -⟩ := ScopePlan.recorded_of_mem_toRemove toRemove
    exact ⟨scope, known, its.symm⟩
  · intro scope wanted
    exact ScopePlan.exists_mem_toAdd wanted workload recorded
  · intro scope known
    obtain ⟨key, planned, matching⟩ := ScopePlan.exists_mem_of_recorded known workload desired
    exact ⟨key, List.mem_append.mpr planned, matching⟩

end Enrolment

end Rollout
