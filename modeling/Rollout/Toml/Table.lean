/-! Tables of a settings document. A table is defined by its header or as an element of an
array, implied by the header of a table inside it, or made by a dotted key; which of these it
was decides who may still add to it. -/

set_option autoImplicit false

namespace Rollout.Toml

/-- Only texts and truth values can be settings; of any other value the kind is all that
counts. -/
inductive Value where
  | string (text : String)
  | boolean (value : Bool)
  | number
  | dateTime
  | array
  | inlineTable
  deriving DecidableEq

inductive Origin where
  | defined
  | implied
  | dotted
  deriving DecidableEq

inductive Item where
  | value (value : Value)
  | table (origin : Origin) (entries : List (String × Item))
  | tables (elements : List (List (String × Item)))

abbrev Entries := List (String × Item)

namespace Entries

def put (entries : Entries) (name : String) (item : Item) : Entries :=
  match entries with
  | [] => [(name, item)]
  | (other, old) :: rest =>
    if other = name then (name, item) :: rest else (other, old) :: put rest name item

/-- Changes the entries of the table at a path below. Tables that are missing on the way are
made; of an array of tables the last element is meant. A dotted key may not go through a table
that is defined. -/
def alter (byDottedKey : Bool) (change : Origin → Entries → Option Entries) :
    List String → Origin → Entries → Option Entries
  | [], origin, entries => change origin entries
  | name :: rest, _, entries =>
    match entries.lookup name with
    | none =>
      let made := if byDottedKey then .dotted else .implied
      (alter byDottedKey change rest made []).map fun below =>
        entries.put name (.table made below)
    | some (.value _) => none
    | some (.tables elements) =>
      match elements.getLast? with
      | none => none
      | some last =>
        (alter byDottedKey change rest .defined last).map fun below =>
          entries.put name (.tables (elements.dropLast ++ [below]))
    | some (.table origin inner) =>
      if byDottedKey && origin = .defined then none
      else
        (alter byDottedKey change rest origin inner).map fun below =>
          entries.put name (.table origin below)

end Entries

/-- A key with its value; the path is empty unless the key is dotted. -/
structure Assignment where
  path : List String
  name : String
  value : Value

/-- Adds an assignment to the entries of a defined table. A name is taken only once, and a
dotted key adds only to tables that dotted keys made. -/
def Entries.assign (entries : Entries) (assignment : Assignment) : Option Entries :=
  Entries.alter true (fun origin below =>
    if (origin = .dotted) = assignment.path.isEmpty then none
    else if (below.lookup assignment.name).isSome then none
    else some (below.put assignment.name (.value assignment.value)))
    assignment.path .defined entries

structure Section where
  isElement : Bool
  path : List String
  name : String
  assignments : List Assignment

/-- Adds a section to the document. A table that was only implied is defined by its header; any
other item in the place of the header is in the way. -/
def Entries.define (document : Entries) (part : Section) : Option Entries :=
  Entries.alter false (fun _ entries =>
    if part.isElement then
      match entries.lookup part.name with
      | none =>
        (part.assignments.foldlM Entries.assign []).map fun filled =>
          entries.put part.name (.tables [filled])
      | some (.tables elements) =>
        (part.assignments.foldlM Entries.assign []).map fun filled =>
          entries.put part.name (.tables (elements ++ [filled]))
      | some _ => none
    else
      match entries.lookup part.name with
      | none =>
        (part.assignments.foldlM Entries.assign []).map fun filled =>
          entries.put part.name (.table .defined filled)
      | some (.table .implied inner) =>
        (part.assignments.foldlM Entries.assign inner).map fun filled =>
          entries.put part.name (.table .defined filled)
      | some _ => none)
    part.path .defined document

end Rollout.Toml
