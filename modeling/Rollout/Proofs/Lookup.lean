import Mathlib.Data.List.Nodup
import Rollout.Proofs.Memory

/-! Searching a store by reference. A reference finds the least of the objects that it names; what
it does not name may be written without its finding another. An object that was written is found by
its own reference, also where that tells no namespace, as no object comes before one without. -/

set_option autoImplicit false

namespace Rollout

namespace Key

theorem lt_iff_space_lt {left right : Key} (version : left.apiVersion = right.apiVersion)
    (kind : left.kind = right.kind) (name : left.name = right.name) :
    left < right ↔ left.space < right.space := by
  change left.parts < right.parts ↔ _
  simp [parts, version, kind, name, List.cons_lt_cons_iff]

theorem empty_lt_iff (text : String) : "" < text ↔ text ≠ "" := by
  rw [String.lt_iff]
  cases characters : text.toList with
  | nil => simp [String.toList_eq_nil_iff.mp characters]
  | cons first rest =>
      have inhabited : text ≠ "" := by
        rintro rfl
        cases characters
      exact ⟨fun _ => inhabited, fun _ => List.nil_lt_cons _ _⟩

variable {reference : Reference} {left right : Key}

theorem eq_of_names (first : Names reference left) (second : Names reference right)
    (space : left.space = right.space) : left = right := by
  obtain ⟨version, kind, name, -⟩ := first
  obtain ⟨version', kind', name', -⟩ := second
  cases left
  cases right
  simp_all

theorem lt_iff_of_names (first : Names reference left) (second : Names reference right) :
    left < right ↔ left.space < right.space := by
  obtain ⟨version, kind, name, -⟩ := first
  obtain ⟨version', kind', name', -⟩ := second
  exact lt_iff_space_lt (version.trans version'.symm) (kind.trans kind'.symm)
    (name.trans name'.symm)

theorem matches_of_names {other : Reference} {key : Key} (first : Names reference key)
    (second : Names other key) : reference.Matches other := by
  obtain ⟨version, kind, name, space⟩ := first
  obtain ⟨version', kind', name', space'⟩ := second
  refine ⟨version.symm.trans version', kind.symm.trans kind', name.symm.trans name', ?_⟩
  rcases space with absent | own
  · exact .inl absent
  · rcases space' with absent | its
    · exact .inr (.inl absent)
    · exact .inr (.inr (own.trans its.symm))

end Key

namespace Resource

theorem storeKey_reference (resource : Resource) : resource.reference.storeKey = resource.key := rfl

theorem names_key (resource : Resource) : Key.Names resource.reference resource.key := by
  refine ⟨rfl, rfl, rfl, ?_⟩
  cases own : resource.space? with
  | none => exact .inl own
  | some space => exact .inr (by simp [reference, key, own])

/-- No key that the reference of a resource names comes before that of the resource. -/
theorem key_le_of_names (resource : Resource) {key : Key}
    (names : Key.Names resource.reference key) : key = resource.key ∨ resource.key < key := by
  by_cases same : resource.key.space = key.space
  · exact .inl (Key.eq_of_names names resource.names_key same.symm)
  · rw [Key.lt_iff_of_names resource.names_key names]
    cases own : resource.space? with
    | none =>
        have spaceless : resource.key.space = "" := congrArg (Option.getD · "") own
        rw [spaceless] at same ⊢
        exact .inr ((Key.empty_lt_iff _).mpr (Ne.symm same))
    | some space =>
        have inSpace : resource.reference.space? = some space := own
        have only := (Reference.names_iff_of_space? inSpace key).mp names
        exact absurd (congrArg Key.space (only.trans resource.storeKey_reference)).symm same

end Resource

namespace Store

theorem find?_eq_some_iff (Wanted : Key → Prop) [DecidablePred Wanted] {objects : List Resource}
    (ordered : Ordered objects) {object : Resource} :
    objects.find? (fun other => Wanted other.key) = some object ↔
      object ∈ objects ∧ Wanted object.key ∧
        ∀ other ∈ objects, Wanted other.key → other = object ∨ object.key < other.key := by
  induction objects with
  | nil => simp
  | cons first rest ih =>
      obtain ⟨later, tail⟩ := List.pairwise_cons.mp ordered
      by_cases wanted : Wanted first.key
      · rw [List.find?_cons, decide_eq_true wanted, Option.some.injEq]
        constructor
        · rintro rfl
          refine ⟨List.mem_cons_self, wanted, ?_⟩
          intro other member _
          rcases List.mem_cons.mp member with same | deeper
          · exact .inl same
          · exact .inr (later other deeper)
        · intro least
          obtain ⟨member, -, least⟩ := least
          rcases least first List.mem_cons_self wanted with same | before
          · exact same
          · rcases List.mem_cons.mp member with same | deeper
            · exact same.symm
            · exact absurd (Key.lt_trans before (later object deeper)) (Key.lt_irrefl _)
      · have elsewhere {other : Resource} (its : Wanted other.key) : other ≠ first := by
          rintro rfl
          exact wanted its
        rw [List.find?_cons, decide_eq_false wanted, ih tail]
        constructor
        · intro least
          obtain ⟨member, its, least⟩ := least
          refine ⟨List.mem_cons_of_mem first member, its, ?_⟩
          intro other present also
          exact least other ((List.mem_cons.mp present).resolve_left (elsewhere also)) also
        · intro least
          obtain ⟨member, its, least⟩ := least
          refine ⟨(List.mem_cons.mp member).resolve_left (elsewhere its), its, ?_⟩
          intro other present also
          exact least other (List.mem_cons_of_mem first present) also

end Store

namespace MemoryStore

variable {store : MemoryStore} {object : Resource} {reference : Reference}

theorem nodup_keys (store : MemoryStore) : (store.objects.map Resource.key).Nodup := by
  refine List.pairwise_map.mpr (store.ordered.imp ?_)
  intro left right before same
  rw [same] at before
  exact Key.lt_irrefl _ before

theorem mem_iff_lookup? : object ∈ store.objects ↔ store.lookup? object.key = some object := by
  constructor
  · intro member
    refine (Store.find?_eq_some_iff (· = object.key) store.ordered).mpr ⟨member, rfl, ?_⟩
    intro other present same
    exact .inl (List.inj_on_of_nodup_map store.nodup_keys present member same)
  · exact List.mem_of_find?_eq_some

theorem mem_insert_iff {other : Resource} :
    other ∈ (store.insert object).objects ↔
      other = object ∨ other ∈ store.objects ∧ object.key ≠ other.key := by
  rw [mem_iff_lookup?, lookup?_insert]
  by_cases same : object.key = other.key
  · simp [same, eq_comm]
  · have differ : other ≠ object := by
      rintro rfl
      exact same rfl
    simp [same, differ, mem_iff_lookup?]

/-- A reference finds the least object that it names. -/
theorem find?_eq_some_iff : store.find? reference = some object ↔
    object ∈ store.objects ∧ Key.Names reference object.key ∧
      ∀ other ∈ store.objects, Key.Names reference other.key →
        other = object ∨ object.key < other.key :=
  Store.find?_eq_some_iff (Key.Names reference) store.ordered

theorem find?_eq_none_iff : store.find? reference = none ↔
    ∀ object ∈ store.objects, ¬ Key.Names reference object.key := by
  simp [find?, List.find?_eq_none]

theorem matches_of_find? {one other : Reference} {first second : Resource}
    (found : store.find? one = some first) (found' : store.find? other = some second)
    (same : first.key = second.key) : one.Matches other :=
  Key.matches_of_names (names_of_find? found) (same ▸ names_of_find? found')

theorem get_eq_ok_iff : store.get reference = .ok object ↔ store.find? reference = some object := by
  unfold get
  cases store.find? reference <;> simp

theorem find?_insert_of_not_names (apart : ¬ Key.Names reference object.key)
    (store : MemoryStore) : (store.insert object).find? reference = store.find? reference :=
  Store.find?_place_of_not (Key.Names reference) apart store.objects

theorem find?_insert_of_find? {old : Resource} (found : store.find? reference = some old)
    (same : object.key = old.key) : (store.insert object).find? reference = some object := by
  obtain ⟨-, names, least⟩ := find?_eq_some_iff.mp found
  refine find?_eq_some_iff.mpr ⟨mem_insert_iff.mpr (.inl rfl), same ▸ names, ?_⟩
  intro other member also
  rcases mem_insert_iff.mp member with new | ⟨present, differ⟩
  · exact .inl new
  · rcases least other present also with rfl | before
    · exact absurd same differ
    · exact .inr (same ▸ before)

theorem find?_insert_self (store : MemoryStore) (object : Resource) :
    (store.insert object).find? object.reference = some object := by
  refine find?_eq_some_iff.mpr ⟨mem_insert_iff.mpr (.inl rfl), object.names_key, ?_⟩
  intro other member names
  rcases mem_insert_iff.mp member with new | ⟨-, differ⟩
  · exact .inl new
  · exact .inr ((object.key_le_of_names names).resolve_left (Ne.symm differ))

end MemoryStore

end Rollout
