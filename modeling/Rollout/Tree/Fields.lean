import Rollout.Tree.Basic

/-! Reading and writing one field of an object. A write keeps every other field, keeps the
place of a field that is already there, and puts a new one in name order. -/

set_option autoImplicit false

namespace Rollout.Fields

def find? (name : String) : Fields → Option Tree
  | [] => none
  | (other, child) :: rest => if other = name then some child else find? name rest

def replace (name : String) (value : Tree) : Fields → Fields
  | [] => []
  | (other, child) :: rest =>
    if other = name then (name, value) :: rest else (other, child) :: replace name value rest

def place (name : String) (value : Tree) : Fields → Fields
  | [] => [(name, value)]
  | (other, child) :: rest =>
    if name < other then (name, value) :: (other, child) :: rest
    else (other, child) :: place name value rest

def set (name : String) (value : Tree) (fields : Fields) : Fields :=
  if (find? name fields).isSome then replace name value fields else place name value fields

/-- A later entry for a name overrides an earlier one. -/
def ofList (entries : List (String × Tree)) : Fields :=
  entries.foldl (fun fields entry => set entry.1 entry.2 fields) []

theorem find?_nil (name : String) : find? name [] = none := rfl

theorem find?_cons_self (name : String) (child : Tree) (rest : Fields) :
    find? name ((name, child) :: rest) = some child :=
  if_pos rfl

theorem find?_cons_of_ne {name other : String} (differ : other ≠ name) (child : Tree)
    (rest : Fields) : find? name ((other, child) :: rest) = find? name rest :=
  if_neg differ

theorem find?_replace_self {name : String} {value : Tree} {fields : Fields}
    (present : (find? name fields).isSome) :
    find? name (replace name value fields) = some value := by
  induction fields with
  | nil => simp [find?] at present
  | cons entry rest ih =>
    by_cases same : entry.1 = name
    · simp [find?, replace, same]
    · have later : (find? name rest).isSome := by simpa [find?, same] using present
      simp [find?, replace, same, ih later]

theorem find?_replace_of_ne {name other : String} (differ : name ≠ other) (value : Tree)
    (fields : Fields) : find? other (replace name value fields) = find? other fields := by
  induction fields with
  | nil => rfl
  | cons entry rest ih =>
    by_cases same : entry.1 = name
    · simp [find?, replace, same, differ]
    · simp [find?, replace, same, ih]

theorem find?_place_self {name : String} {value : Tree} {fields : Fields}
    (absent : find? name fields = none) : find? name (place name value fields) = some value := by
  induction fields with
  | nil => simp [find?, place]
  | cons entry rest ih =>
    by_cases same : entry.1 = name
    · simp [find?, same] at absent
    · have later : find? name rest = none := by simpa [find?, same] using absent
      by_cases before : name < entry.1
      · simp [find?, place, before]
      · simp [find?, place, before, same, ih later]

theorem find?_place_of_ne {name other : String} (differ : name ≠ other) (value : Tree)
    (fields : Fields) : find? other (place name value fields) = find? other fields := by
  induction fields with
  | nil => simp [find?, place, differ]
  | cons entry rest ih =>
    by_cases before : name < entry.1
    · simp [find?, place, before, differ]
    · simp [find?, place, before, ih]

@[simp] theorem find?_set_self (name : String) (value : Tree) (fields : Fields) :
    find? name (set name value fields) = some value := by
  unfold set
  split
  next present => exact find?_replace_self present
  next absent => exact find?_place_self (by simpa using absent)

theorem find?_set_of_ne {name other : String} (differ : name ≠ other) (value : Tree)
    (fields : Fields) : find? other (set name value fields) = find? other fields := by
  unfold set
  split
  · exact find?_replace_of_ne differ value fields
  · exact find?_place_of_ne differ value fields

theorem replace_find? {name : String} {value : Tree} {fields : Fields}
    (found : find? name fields = some value) : replace name value fields = fields := by
  induction fields with
  | nil => simp [find?] at found
  | cons entry rest ih =>
    by_cases same : entry.1 = name
    · simp only [find?, same, if_true, Option.some.injEq] at found
      simp [replace, ← found, ← same]
    · simp only [find?, same, if_false] at found
      simp [replace, same, ih found]

theorem set_find? {name : String} {value : Tree} {fields : Fields}
    (found : find? name fields = some value) : set name value fields = fields := by
  simp [set, found, replace_find? found]

end Rollout.Fields
