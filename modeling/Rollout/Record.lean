import Rollout.Tree.Fields

/-! Records in attribute trees. A record with declared fields is read from an object, by
name and without regard to any other field, or from an array, by position in the order of
declaration. It is written as an object. -/

set_option autoImplicit false

namespace Rollout.Record

/-- What a tree holds at each declared field, in the order of declaration; `none` where the
field is left out. An array may stop early but not hold more than the declared fields. -/
def columns (names : List String) (tree : Tree) : Option (List (Option Tree)) :=
  match tree with
  | .object fields => some (names.map fun name => Fields.find? name fields)
  | .array items =>
    if items.length ≤ names.length then
      some (items.map some ++ List.replicate (names.length - items.length) none)
    else none
  | _ => none

/-! ### Columns

A required column has to be there. An optional one may be left out or null, and a defaulted
one may be left out only. -/

def required {α : Type} (read : Tree → Option α) : Option Tree → Option α
  | none => none
  | some tree => read tree

def optional {α : Type} (read : Tree → Option α) : Option Tree → Option (Option α)
  | none => some none
  | some .null => some none
  | some tree => (read tree).map some

def defaulted {α : Type} (default : α) (read : Tree → Option α) : Option Tree → Option α
  | none => some default
  | some tree => read tree

def list {α : Type} (read : Tree → Option α) : Tree → Option (List α)
  | .array items => items.mapM read
  | _ => none

def entry? (name : String) (value? : Option String) : List (String × Tree) :=
  match value? with
  | some value => [(name, .string value)]
  | none => []

end Rollout.Record
