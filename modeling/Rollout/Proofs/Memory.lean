import Rollout.Proofs.Plan
import Rollout.Store.Memory

/-! The store in memory, seen key by key. A store is determined by what it holds at each key, and
a reference that lies in a namespace names one key. -/

set_option autoImplicit false

namespace Rollout

namespace Reference

def storeKey (reference : Reference) : Key where
  apiVersion := reference.apiVersion
  kind := reference.kind
  space := reference.space?.getD ""
  name := reference.name

theorem names_iff_of_space? {reference : Reference} {space : String}
    (inSpace : reference.space? = some space) (key : Key) :
    Key.Names reference key ↔ key = reference.storeKey := by
  obtain ⟨apiVersion, kind, its, name⟩ := key
  simp only [Key.Names, storeKey, inSpace, Option.getD_some, Key.mk.injEq, reduceCtorEq, false_or,
    Option.some.injEq]
  constructor
  · intro parts
    obtain ⟨version, kind, name, space⟩ := parts
    exact ⟨version, kind, space.symm, name⟩
  · intro parts
    obtain ⟨version, kind, space, name⟩ := parts
    exact ⟨version, kind, name, space.symm⟩

theorem Placed.names_iff {reference : Reference} (placed : reference.Placed) (key : Key) :
    Key.Names reference key ↔ key = reference.storeKey := by
  obtain ⟨-, space, inSpace⟩ := placed
  exact names_iff_of_space? inSpace key

theorem Placed.eq_of_storeKey {left right : Reference} (first : left.Placed)
    (second : right.Placed) (same : left.storeKey = right.storeKey) : left = right := by
  apply first.eq_of_matches second
  obtain ⟨-, one, inOne⟩ := first
  obtain ⟨-, other, inOther⟩ := second
  simp only [storeKey, inOne, inOther, Option.getD_some, Key.mk.injEq] at same
  obtain ⟨version, kind, space, name⟩ := same
  exact ⟨version, kind, name, .inr (.inr (by rw [inOne, inOther, space]))⟩

end Reference

def MemoryStore.holding (objects : List Resource) : MemoryStore := objects.foldl insert {}

def Resource.scopeWith (space name : String) (member : Reference) : Resource :=
  (((Resource.new "v1" "Scope" name).withNamespace space).set "spec.workloadRefs"
    (.array [member.entry])).resource

namespace Store

theorem find?_eq_none_of_lt {key : Key} (objects : List Resource)
    (before : ∀ object ∈ objects, key < object.key) :
    objects.find? (fun object => object.key = key) = none := by
  rw [List.find?_eq_none]
  intro object member same
  have impossible := before object member
  rw [of_decide_eq_true same] at impossible
  exact Key.lt_irrefl key impossible

theorem eq_of_find? {left right : List Resource} (ordered : Ordered left) (ordered' : Ordered right)
    (same : ∀ key, left.find? (fun object => object.key = key) =
      right.find? fun object => object.key = key) : left = right := by
  induction left generalizing right with
  | nil =>
      cases right with
      | nil => rfl
      | cons first rest =>
          have found := same first.key
          simp at found
  | cons object objects ih =>
      cases right with
      | nil =>
          have found := same object.key
          simp at found
      | cons first rest =>
          obtain ⟨later, tail⟩ := List.pairwise_cons.mp ordered
          obtain ⟨later', tail'⟩ := List.pairwise_cons.mp ordered'
          have sameKey : object.key = first.key := by
            by_cases before : object.key < first.key
            · have found := same object.key
              rw [find?_eq_none_of_lt (first :: rest)] at found
              · simp at found
              · intro other member
                rcases List.mem_cons.mp member with rfl | deeper
                · exact before
                · exact Key.lt_trans before (later' other deeper)
            · by_cases equal : object.key = first.key
              · exact equal
              · have after := Key.lt_of_not_lt_of_ne before equal
                have found := same first.key
                rw [find?_eq_none_of_lt (object :: objects)] at found
                · simp at found
                · intro other member
                  rcases List.mem_cons.mp member with rfl | deeper
                  · exact after
                  · exact Key.lt_trans after (later other deeper)
          have sameFirst : object = first := by
            have found := same object.key
            simpa [sameKey] using found
          subst sameFirst
          refine congrArg (List.cons object) (ih tail tail' ?_)
          intro key
          by_cases here : object.key = key
          · rw [find?_eq_none_of_lt objects (here ▸ later),
              find?_eq_none_of_lt rest (here ▸ later')]
          · simpa [here] using same key

end Store

namespace MemoryStore

theorem find?_of_space? {reference : Reference} {space : String}
    (inSpace : reference.space? = some space) (store : MemoryStore) :
    store.find? reference = store.lookup? reference.storeKey := by
  simp only [find?, lookup?, Reference.names_iff_of_space? inSpace]

theorem find?_of_placed {reference : Reference} (placed : reference.Placed) (store : MemoryStore) :
    store.find? reference = store.lookup? reference.storeKey := by
  obtain ⟨-, space, inSpace⟩ := placed
  exact find?_of_space? inSpace store

theorem lookup?_insert (store : MemoryStore) (object : Resource) (key : Key) :
    (store.insert object).lookup? key =
      if object.key = key then some object else store.lookup? key := by
  by_cases same : object.key = key
  · rw [if_pos same, ← same]
    exact lookup?_insert_self store object
  · rw [if_neg same]
    exact lookup?_insert_of_ne same store

theorem key_of_lookup? {store : MemoryStore} {key : Key} {object : Resource}
    (found : store.lookup? key = some object) : object.key = key := by
  simpa using List.find?_some found

theorem ext_lookup? {left right : MemoryStore} (definitions : left.definitions = right.definitions)
    (same : ∀ key, left.lookup? key = right.lookup? key) : left = right := by
  have objects := Store.eq_of_find? left.ordered right.ordered same
  cases left
  cases right
  simp only at definitions objects
  subst definitions objects
  rfl

variable {store : MemoryStore} {object : Resource}

theorem insert_self (found : store.lookup? object.key = some object) :
    store.insert object = store := by
  refine ext_lookup? rfl ?_
  intro key
  rw [lookup?_insert]
  split
  · rename_i same
    rw [← same, found]
  · rfl

theorem names_of_find? {reference : Reference} (found : store.find? reference = some object) :
    Key.Names reference object.key := by
  unfold find? at found
  simpa using List.find?_some found

theorem lookup?_of_find? {reference : Reference} (found : store.find? reference = some object) :
    store.lookup? object.key = some object := by
  have member := List.mem_of_find?_eq_some found
  unfold lookup?
  rw [List.find?_eq_some_iff_append]
  refine ⟨decide_eq_true rfl, ?_⟩
  obtain ⟨before, after, split⟩ := List.append_of_mem member
  refine ⟨before, after, split, ?_⟩
  intro other present
  have ordered := store.ordered
  rw [split] at ordered
  have less := (List.pairwise_append.mp ordered).2.2 other present object List.mem_cons_self
  have differ : other.key ≠ object.key := by
    intro same
    rw [same] at less
    exact Key.lt_irrefl _ less
  simp [differ]

theorem upsert_cases (store : MemoryStore) (object : Resource) (options : List ApplyOption) :
    store.upsert object options = .ok (store.insert object) ∨
      ∃ refusal, store.upsert object options = .error refusal := by
  unfold upsert
  split
  · exact .inl rfl
  · split
    · exact .inl rfl
    · exact .inr ⟨_, rfl⟩

theorem upsert_nil (store : MemoryStore) (object : Resource) :
    store.upsert object [] = .ok (store.insert object) := by
  unfold upsert
  split <;> rfl

theorem update_of_lookup? {other : Resource} (there : store.lookup? object.key = some other) :
    store.update object = .ok (store.insert object) := by
  simp only [update, there]

end MemoryStore

end Rollout
