set_option autoImplicit false

namespace Rollout

/-- A decimal number `mantissa · 10 ^ -exponent`, kept exactly as it was written. -/
structure Number where
  mantissa : Int
  exponent : Nat
  deriving DecidableEq

/-- The fields of an object are kept in the order of their names. -/
inductive Tree where
  | null
  | bool (value : Bool)
  | number (value : Number)
  | string (text : String)
  | array (items : List Tree)
  | object (fields : List (String × Tree))

abbrev Fields := List (String × Tree)

inductive Shape where
  | null
  | boolean
  | number
  | string
  | array
  | object
  deriving DecidableEq

def Shape.name : Shape → String
  | .null => "null"
  | .boolean => "a boolean"
  | .number => "a number"
  | .string => "a string"
  | .array => "an array"
  | .object => "an object"

namespace Tree

def shape : Tree → Shape
  | .null => .null
  | .bool _ => .boolean
  | .number _ => .number
  | .string _ => .string
  | .array _ => .array
  | .object _ => .object

def text? : Tree → Option String
  | .string text => some text
  | _ => none

def bool? : Tree → Option Bool
  | .bool value => some value
  | _ => none

def items? : Tree → Option (List Tree)
  | .array items => some items
  | _ => none

def fields : Tree → Fields
  | .object fields => fields
  | _ => []

instance : Inhabited Tree := ⟨.null⟩

mutual

def same : Tree → Tree → Bool
  | .null, .null => true
  | .bool left, .bool right => left == right
  | .number left, .number right => left == right
  | .string left, .string right => left == right
  | .array left, .array right => sameItems left right
  | .object left, .object right => sameFields left right
  | _, _ => false
termination_by structural left _ => left

def sameItems : List Tree → List Tree → Bool
  | [], [] => true
  | left :: lefts, right :: rights => same left right && sameItems lefts rights
  | _, _ => false
termination_by structural left _ => left

def sameFields : List (String × Tree) → List (String × Tree) → Bool
  | [], [] => true
  | left :: lefts, right :: rights => sameField left right && sameFields lefts rights
  | _, _ => false
termination_by structural left _ => left

def sameField : String × Tree → String × Tree → Bool
  | (name, left), (other, right) => name == other && same left right
termination_by structural left _ => left

end

mutual

theorem same_iff : (left right : Tree) → (same left right = true ↔ left = right)
  | .null, right => by cases right <;> simp [same]
  | .bool _, right => by cases right <;> simp [same]
  | .number _, right => by cases right <;> simp [same]
  | .string _, right => by cases right <;> simp [same]
  | .array left, right => by
    cases right with
    | array right => simp [same, sameItems_iff left right]
    | _ => simp [same]
  | .object left, right => by
    cases right with
    | object right => simp [same, sameFields_iff left right]
    | _ => simp [same]

theorem sameItems_iff : (left right : List Tree) → (sameItems left right = true ↔ left = right)
  | [], right => by cases right <;> simp [sameItems]
  | left :: lefts, right => by
    cases right with
    | nil => simp [sameItems]
    | cons right rights => simp [sameItems, same_iff left right, sameItems_iff lefts rights]

theorem sameFields_iff :
    (left right : List (String × Tree)) → (sameFields left right = true ↔ left = right)
  | [], right => by cases right <;> simp [sameFields]
  | left :: lefts, right => by
    cases right with
    | nil => simp [sameFields]
    | cons right rights => simp [sameFields, sameField_iff left right, sameFields_iff lefts rights]

theorem sameField_iff :
    (left right : String × Tree) → (sameField left right = true ↔ left = right)
  | (_, left), (_, right) => by simp [sameField, same_iff left right]

end

instance : DecidableEq Tree := fun left right => decidable_of_iff _ (same_iff left right)

end Tree

end Rollout
