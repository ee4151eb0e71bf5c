import Rollout.Path.Read

/-! Writing the node at a path. Null nodes on the way become the container that the next step
needs, missing fields are made, and a position equal to an array's length appends. A write
that meets an obstacle is not taken back: the containers made before it stay. -/

set_option autoImplicit false

namespace Rollout

/-- The tree that a write leaves behind, and what stopped the write, if anything did. -/
structure Written (Failure : Type) where
  tree : Tree
  failure : Option Failure

namespace Tree

/-- A null node as the empty container that a step needs; any other node as it is. -/
def opened (node : Tree) (segment : Segment) : Tree :=
  match node, segment with
  | .null, .field _ => .object []
  | .null, .index _ => .array []
  | other, _ => other

/-- The node that a step of a write goes on with: the child, or null for a child yet to be
made. -/
def slot (node : Tree) (segment : Segment) : Except Obstacle Tree :=
  match segment, node with
  | .field name, .object fields => .ok ((Fields.find? name fields).getD .null)
  | .index position, .array items =>
    match items[position]? with
    | some found => .ok found
    | none =>
      if position = items.length then .ok .null else .error (.pastEnd position items.length)
  | _, other => .error (.mismatch segment other.shape)

def place (node : Tree) (segment : Segment) (child : Tree) : Tree :=
  match segment, node with
  | .field name, .object fields => .object (Fields.set name child fields)
  | .index position, .array items =>
    if position < items.length then .array (items.set position child)
    else .array (items ++ [child])
  | _, other => other

def write (value : Tree) : List Segment → Tree → Written Obstacle
  | [], _ => ⟨value, none⟩
  | segment :: rest, node =>
    let container := node.opened segment
    match container.slot segment with
    | .error obstacle => ⟨container, some obstacle⟩
    | .ok below =>
      let written := write value rest below
      ⟨container.place segment written.tree, written.failure⟩

/-- Writes at a written path; a malformed path changes nothing. -/
def set (tree : Tree) (path : String) (value : Tree) : Written PathError :=
  match Path.parse path with
  | .error reason => ⟨tree, some (.invalidPath path reason.message)⟩
  | .ok segments =>
    let written := write value segments tree
    ⟨written.tree, written.failure.map (·.at path)⟩

theorem set_object (path : String) (value : Tree) (fields : Fields) :
    ∃ after, (set (.object fields) path value).tree = .object after := by
  unfold set
  cases parsed : Path.parse path with
  | error reason => exact ⟨fields, rfl⟩
  | ok segments =>
    obtain ⟨name, rest, rfl⟩ := Path.head_of_parse parsed
    let below := (Fields.find? name fields).getD .null
    exact ⟨Fields.set name (write value rest below).tree fields, by
      simp only [write, opened, slot, place, below]⟩

end Tree

end Rollout
