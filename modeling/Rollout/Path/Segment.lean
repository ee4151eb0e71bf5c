import Rollout.Tree.Basic
import Rollout.Text.Decimal

set_option autoImplicit false

namespace Rollout

inductive Segment where
  | field (name : String)
  | index (position : Nat)
  deriving DecidableEq

namespace Segment

def text : Segment → String
  | .field name => name
  | .index position => "[" ++ Text.decimal position ++ "]"

def container : Segment → Shape
  | .field _ => .object
  | .index _ => .array

end Segment

end Rollout
