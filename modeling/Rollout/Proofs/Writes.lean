import Mathlib.Logic.Function.Basic
import Rollout.Engine.Call
import Rollout.Proofs.ByteOrder
import Rollout.Proofs.Lookup

/-! Histories of writes. After any sequence of insertions, upserts and updates a store holds under
each key what was last accepted there. What was written is read back, other keys are undisturbed,
and a write that is refused leaves no trace. -/

set_option autoImplicit false

namespace Rollout

inductive Write where
  | insert (object : Resource)
  | upsert (role : Role) (object : Resource) (options : List ApplyOption)
  | update (role : Role) (object : Resource)

/-- What is held under each key. -/
abbrev Holdings := Key → Option Resource

namespace Write

def object : Write → Resource
  | .insert object => object
  | .upsert _ object _ => object
  | .update _ object => object

/-- An upsert may be refused on behalf of the controller of what it would replace, and an update is
refused where there is nothing to replace. -/
def Accepted (held : Holdings) : Write → Prop
  | .insert _ => True
  | .upsert _ object options =>
    ∀ owner, (held object.key).bind Resource.controllerUid? = some owner →
      ∀ option ∈ options, option.refuses owner = false
  | .update _ object => (held object.key).isSome

instance (held : Holdings) (write : Write) : Decidable (write.Accepted held) := by
  cases write <;> unfold Accepted <;> infer_instance

def change (held : Holdings) (write : Write) : Holdings :=
  if write.Accepted held then Function.update held write.object.key (some write.object) else held

theorem change_of_ne {write : Write} {key : Key} (apart : key ≠ write.object.key)
    (held : Holdings) : write.change held key = held key := by
  unfold change
  split
  · exact Function.update_of_ne apart _ _
  · rfl

end Write

/-- What was last accepted under each key, where there was nothing at first. -/
def Holdings.ofWrites (writes : List Write) : Holdings :=
  writes.foldl Write.change fun _ => none

namespace MemoryStore

def perform (store : MemoryStore) : Write → Except StoreError Unit × MemoryStore
  | .insert object => (.ok (), store.insert object)
  | .upsert role object options => store.answer (.upsert role object options)
  | .update role object => store.answer (.update role object)

def ofWrites (writes : List Write) : MemoryStore :=
  writes.foldl (fun store write => (store.perform write).2) (holding [])

variable {store : MemoryStore} {write : Write}

theorem perform_of_accepted (accepted : write.Accepted store.lookup?) :
    store.perform write = (.ok (), store.insert write.object) := by
  cases write with
  | insert object => rfl
  | upsert role object options =>
      have allowed : store.upsert object options = .ok (store.insert object) := by
        unfold upsert
        split
        · rfl
        next owner controls =>
          have unrefused : options.find? (·.refuses owner) = none :=
            List.find?_eq_none.mpr fun option asked => by
              simp [accepted owner controls option asked]
          rw [unrefused]
      simp only [perform, answer, allowed, Write.object]
  | update role object =>
      obtain ⟨old, held⟩ := Option.isSome_iff_exists.mp accepted
      simp only [perform, answer, update_of_lookup? held, Write.object]

theorem perform_of_not_accepted (refused : ¬ write.Accepted store.lookup?) :
    ∃ refusal, store.perform write = (.error refusal, store) := by
  cases write with
  | insert object => exact absurd trivial refused
  | upsert role object options =>
      obtain ⟨owner, controls, option, asked, refuses⟩ : ∃ owner,
          (store.lookup? object.key).bind Resource.controllerUid? = some owner ∧
            ∃ option ∈ options, option.refuses owner = true := by
        simpa [Write.Accepted] using refused
      have conflict : ∃ refusal, store.upsert object options = .error refusal := by
        simp only [upsert, controls]
        cases first : options.find? (·.refuses owner) with
        | none => exact absurd refuses (List.find?_eq_none.mp first option asked)
        | some other =>
            cases other
            exact ⟨_, rfl⟩
      obtain ⟨refusal, conflict⟩ := conflict
      exact ⟨refusal, by simp only [perform, answer, conflict]⟩
  | update role object =>
      have missing : store.lookup? object.key = none := by simpa [Write.Accepted] using refused
      exact ⟨.missing object.reference, by simp only [perform, answer, update, missing]⟩

theorem perform_ok_iff : (store.perform write).1 = .ok () ↔ write.Accepted store.lookup? := by
  by_cases accepted : write.Accepted store.lookup?
  · simp [perform_of_accepted accepted, accepted]
  · obtain ⟨refusal, refused⟩ := perform_of_not_accepted accepted
    simp [refused, accepted]

theorem lookup?_perform (store : MemoryStore) (write : Write) :
    (store.perform write).2.lookup? = write.change store.lookup? := by
  unfold Write.change
  split
  next accepted =>
    rw [perform_of_accepted accepted]
    funext key
    rw [lookup?_insert, Function.update_apply]
    simp only [eq_comm]
  next refused =>
    obtain ⟨refusal, same⟩ := perform_of_not_accepted refused
    rw [same]

theorem lookup?_ofWrites (writes : List Write) :
    (ofWrites writes).lookup? = Holdings.ofWrites writes := by
  have onward (store : MemoryStore) : (writes.foldl (fun store write => (store.perform write).2)
      store).lookup? = writes.foldl Write.change store.lookup? := by
    induction writes generalizing store with
    | nil => rfl
    | cons write rest ih =>
        rw [List.foldl_cons, List.foldl_cons, ih, lookup?_perform]
  exact onward (holding [])

/-- The store is a finite map that holds just this, and whoever writes to it reads what they
wrote. -/
structure Keeps (store : MemoryStore) (held : Holdings) : Prop where
  keyed : ∀ key object, held key = some object ↔ object ∈ store.objects ∧ object.key = key
  single : (store.objects.map Resource.key).Nodup
  accepted : ∀ write, (store.perform write).1 = .ok () ↔ write.Accepted held
  readBack : ∀ write, (store.perform write).1 = .ok () →
    (store.perform write).2.get write.object.reference = .ok write.object ∧
      (store.perform write).2.find? write.object.reference = some write.object
  undisturbed : ∀ write reference space, reference.space? = some space →
    reference.storeKey ≠ write.object.key →
      (store.perform write).2.get reference = store.get reference
  updated : ∀ role object, (store.perform (.update role object)).1 = .ok () →
    (store.perform (.update role object)).2 = (store.perform (.insert object)).2
  refused : ∀ write, (store.perform write).1 ≠ .ok () → (store.perform write).2 = store
  agree : ∀ reference, store.get reference =
    match store.find? reference with
    | some object => .ok object
    | none => .error (.missing reference)
  /-- Of several objects that a reference names, the one of the least namespace is found. -/
  found : ∀ reference object, store.find? reference = some object ↔
    object ∈ store.objects ∧ Key.Names reference object.key ∧
      ∀ other ∈ store.objects, Key.Names reference other.key →
        other = object ∨ Text.bytes object.key.space < Text.bytes other.key.space
  missed : ∀ reference, store.find? reference = none ↔
    ∀ object ∈ store.objects, ¬ Key.Names reference object.key

theorem get_eq (store : MemoryStore) (reference : Reference) : store.get reference =
    match store.find? reference with
    | some object => .ok object
    | none => .error (.missing reference) := rfl

theorem find?_eq_some_iff_bytes {reference : Reference} {object : Resource} :
    store.find? reference = some object ↔
      object ∈ store.objects ∧ Key.Names reference object.key ∧
        ∀ other ∈ store.objects, Key.Names reference other.key →
          other = object ∨ Text.bytes object.key.space < Text.bytes other.key.space := by
  rw [find?_eq_some_iff]
  refine and_congr_right fun _ => and_congr_right fun names => ?_
  refine forall_congr' fun other => forall_congr' fun _ => forall_congr' fun also => ?_
  rw [Key.lt_iff_of_names names also, Text.lt_iff_bytes_lt]

theorem keeps_lookup? (store : MemoryStore) : store.Keeps store.lookup? where
  keyed key object := by
    constructor
    · intro held
      have same := key_of_lookup? held
      exact ⟨mem_iff_lookup?.mpr (same ▸ held), same⟩
    · rintro ⟨member, rfl⟩
      exact mem_iff_lookup?.mp member
  single := store.nodup_keys
  accepted _ := perform_ok_iff
  readBack write succeeded := by
    rw [perform_of_accepted (perform_ok_iff.mp succeeded), get_eq, find?_insert_self]
    exact ⟨rfl, rfl⟩
  undisturbed write reference space inSpace apart := by
    rw [get_eq, get_eq, find?_of_space? inSpace, find?_of_space? inSpace, lookup?_perform,
      Write.change_of_ne apart]
  updated role object succeeded := by
    rw [perform_of_accepted (perform_ok_iff.mp succeeded)]
    rfl
  refused write failed := by
    obtain ⟨refusal, same⟩ := perform_of_not_accepted (mt perform_ok_iff.mpr failed)
    rw [same]
  agree := store.get_eq
  found _ _ := find?_eq_some_iff_bytes
  missed _ := find?_eq_none_iff

/-- After any history of writes a store keeps what was last accepted under each key. -/
theorem keeps_last_accepted (writes : List Write) :
    (ofWrites writes).Keeps (Holdings.ofWrites writes) := by
  rw [← lookup?_ofWrites]
  exact (ofWrites writes).keeps_lookup?

def spaced (space : String) : Resource := (Resource.new "v1" "Scope" "s").withNamespace space

theorem keeps_spaceless_among_spaced :
    let store := ofWrites [.insert (spaced "b"), .upsert .scope (spaced "a") []]
    let plain : Resource := .new "v1" "Scope" "s"
    let after := (store.perform (.insert plain)).2
    store.find? plain.reference = some (spaced "a") ∧ after.get plain.reference = .ok plain ∧
      after.get (spaced "b").reference = store.get (spaced "b").reference ∧
        (store.perform (.update .scope (spaced "c"))).2 = store := by
  have keeps := keeps_last_accepted [.insert (spaced "b"), .upsert .scope (spaced "a") []]
  refine ⟨?_, ?_, ?_, ?_⟩
  · exact (keeps.found _ _).mpr ⟨by decide, by decide, by decide⟩
  · exact (keeps.readBack (.insert (.new "v1" "Scope" "s")) rfl).1
  · exact keeps.undisturbed _ _ "b" rfl (by decide)
  · exact keeps.refused (.update .scope (spaced "c")) (by decide)

end MemoryStore

end Rollout
