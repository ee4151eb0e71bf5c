import Rollout.Store.Error
import Rollout.Store.Key
import Rollout.TraitType

/-! A store in memory: one object a key, in the order of the keys, and the trait types that are
registered with it. -/

set_option autoImplicit false

namespace Rollout

/-- What an upsert asks of the object that it may replace. -/
inductive ApplyOption where
  /-- An object with a controller must be controlled by the holder of this uid. -/
  | mustBeControllableBy (uid : String)
  deriving DecidableEq

/-- The uid of the controlling owner: that of the first owner reference marked as controller,
if it is a string. -/
def Resource.controllerUid? (resource : Resource) : Option String := do
  let owners ← (resource.get "metadata.ownerReferences").toOption
  let controller ← (← owners.items?).find? fun owner =>
    Fields.find? "controller" owner.fields = some (.bool true)
  (← Fields.find? "uid" controller.fields).text?

def ApplyOption.refuses (option : ApplyOption) (owner : String) : Bool :=
  match option with
  | .mustBeControllableBy uid => owner ≠ uid

namespace Store

/-- Puts an object at the place of its key, over the object that is there, if any. -/
def place (object : Resource) : List Resource → List Resource
  | [] => [object]
  | other :: rest =>
    if object.key < other.key then object :: other :: rest
    else if object.key = other.key then object :: rest
    else other :: place object rest

abbrev Ordered (objects : List Resource) : Prop :=
  objects.Pairwise fun left right => left.key < right.key

theorem mem_of_mem_place {object found : Resource} {objects : List Resource}
    (member : found ∈ place object objects) : found = object ∨ found ∈ objects := by
  induction objects with
  | nil => exact .inl (by simpa [place] using member)
  | cons other rest ih =>
    rw [place] at member
    split at member
    · simpa using member
    · split at member
      · rcases List.mem_cons.mp member with same | later
        · exact .inl same
        · exact .inr (List.mem_cons_of_mem _ later)
      · rcases List.mem_cons.mp member with same | later
        · exact .inr (same ▸ List.mem_cons_self)
        · exact (ih later).imp_right (List.mem_cons_of_mem _)

theorem ordered_place (object : Resource) {objects : List Resource} (ordered : Ordered objects) :
    Ordered (place object objects) := by
  induction objects with
  | nil => simp [place, Ordered]
  | cons other rest ih =>
    have first := List.pairwise_cons.mp ordered
    rw [place]
    split
    next before =>
      refine List.pairwise_cons.mpr ⟨fun later member => ?_, ordered⟩
      rcases List.mem_cons.mp member with same | deeper
      · exact same ▸ before
      · exact Key.lt_trans before (first.1 later deeper)
    next notBefore =>
      split
      next same =>
        exact List.pairwise_cons.mpr ⟨fun later member => same ▸ first.1 later member, first.2⟩
      next differ =>
        refine List.pairwise_cons.mpr ⟨fun later member => ?_, ih first.2⟩
        rcases mem_of_mem_place member with same | deeper
        · exact same ▸ Key.lt_of_not_lt_of_ne notBefore differ
        · exact first.1 later deeper

theorem find?_place_self (object : Resource) (objects : List Resource) :
    (place object objects).find? (fun other => other.key = object.key) = some object := by
  induction objects with
  | nil => simp [place]
  | cons other rest ih =>
      rw [place]
      split
      · simp
      · split
        · simp
        next differ => simpa [Ne.symm differ] using ih

theorem find?_place_of_not (Wanted : Key → Prop) [DecidablePred Wanted] {object : Resource}
    (unwanted : ¬ Wanted object.key) (objects : List Resource) :
    (place object objects).find? (fun other => Wanted other.key) =
      objects.find? (fun other => Wanted other.key) := by
  induction objects with
  | nil => simp [place, unwanted]
  | cons other rest ih =>
      rw [place]
      split
      · simp [unwanted]
      · split
        next same => simp [unwanted, same ▸ unwanted]
        next => simp only [List.find?_cons, ih]

theorem find?_place_of_ne {object : Resource} {key : Key} (differ : object.key ≠ key)
    (objects : List Resource) :
    (place object objects).find? (fun other => other.key = key) =
      objects.find? (fun other => other.key = key) :=
  find?_place_of_not (· = key) differ objects

end Store

structure MemoryStore where
  objects : List Resource := []
  ordered : Store.Ordered objects := by exact List.Pairwise.nil
  /-- The latest registration first. -/
  definitions : List ((String × String) × TraitType) := []
  deriving DecidableEq

namespace MemoryStore

/-- The object of the least key that the reference names. -/
def find? (store : MemoryStore) (reference : Reference) : Option Resource :=
  store.objects.find? fun object => Key.Names reference object.key

def lookup? (store : MemoryStore) (key : Key) : Option Resource :=
  store.objects.find? fun object => object.key = key

def insert (store : MemoryStore) (object : Resource) : MemoryStore :=
  { store with
    objects := Store.place object store.objects
    ordered := Store.ordered_place object store.ordered }

@[simp] theorem lookup?_insert_self (store : MemoryStore) (object : Resource) :
    (store.insert object).lookup? object.key = some object :=
  Store.find?_place_self object store.objects

theorem lookup?_insert_of_ne {object : Resource} {key : Key} (differ : object.key ≠ key)
    (store : MemoryStore) : (store.insert object).lookup? key = store.lookup? key :=
  Store.find?_place_of_ne differ store.objects

def register (store : MemoryStore) (apiVersion kind : String) (traitType : TraitType) :
    MemoryStore :=
  { store with definitions := ((apiVersion, kind), traitType) :: store.definitions }

def get (store : MemoryStore) (reference : Reference) : Except StoreError Resource :=
  match store.find? reference with
  | some object => .ok object
  | none => .error (.missing reference)

/-- Creates or replaces an object, unless the one that is there is controlled by another owner
than an option allows. -/
def upsert (store : MemoryStore) (object : Resource) (options : List ApplyOption) :
    Except StoreError MemoryStore :=
  match (store.lookup? object.key).bind Resource.controllerUid? with
  | none => .ok (store.insert object)
  | some owner =>
    match options.find? (·.refuses owner) with
    | none => .ok (store.insert object)
    | some (.mustBeControllableBy uid) =>
      .error (.conflict object.kind object.name ("controlled by " ++ owner ++ ", not " ++ uid))

def update (store : MemoryStore) (object : Resource) : Except StoreError MemoryStore :=
  match store.lookup? object.key with
  | some _ => .ok (store.insert object)
  | none => .error (.missing object.reference)

def traitDefinition (store : MemoryStore) (apiVersion kind : String) :
    Except StoreError TraitType :=
  match store.definitions.lookup (apiVersion, kind) with
  | some traitType => .ok traitType
  | none => .error (.notFound "TraitDefinition" (apiVersion ++ "/" ++ kind))

end MemoryStore

end Rollout
