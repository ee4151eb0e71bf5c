import Rollout.Path.Error
import Rollout.Path.Parse
import Rollout.Tree.Fields

/-! Reading the node at a path. A null node has no fields and no positions. -/

set_option autoImplicit false

namespace Rollout.Tree

def child (node : Tree) (segment : Segment) : Except Obstacle Tree :=
  match segment, node with
  | .field name, .object fields =>
    match Fields.find? name fields with
    | some found => .ok found
    | none => .error (.missing segment)
  | .index position, .array items =>
    match items[position]? with
    | some found => .ok found
    | none => .error (.pastEnd position items.length)
  | _, .null => .error (.missing segment)
  | _, other => .error (.mismatch segment other.shape)

def read : List Segment → Tree → Except Obstacle Tree
  | [], node => .ok node
  | segment :: rest, node => do read rest (← node.child segment)

def get (tree : Tree) (path : String) : Except PathError Tree :=
  match Path.parse path with
  | .error reason => .error (.invalidPath path reason.message)
  | .ok segments => (read segments tree).mapError (·.at path)

end Rollout.Tree
