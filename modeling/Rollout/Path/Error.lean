import Rollout.Path.Segment
import Rollout.Text.Quoted

set_option autoImplicit false

namespace Rollout

inductive Obstacle where
  /-- There is no such field, or the node is null. -/
  | missing (segment : Segment)
  | pastEnd (position length : Nat)
  | mismatch (segment : Segment) (found : Shape)
  deriving DecidableEq

/-- A reader is told the kinds of node that were wanted and met by their names. -/
inductive PathError where
  | invalidPath (path reason : String)
  | notFound (path segment : String)
  | indexOutOfBounds (path : String) (index length : Nat)
  | notAContainer (path segment expected found : String)
  | unexpectedType (path expected found : String)
  /-- A resource body that is not an object. -/
  | invalidBody (found : String)
  deriving DecidableEq

def Obstacle.at (obstacle : Obstacle) (path : String) : PathError :=
  match obstacle with
  | .missing segment => .notFound path segment.text
  | .pastEnd position length => .indexOutOfBounds path position length
  | .mismatch segment found => .notAContainer path segment.text segment.container.name found.name

namespace PathError

def message : PathError → String
  | .invalidPath path reason => "invalid field path " ++ Text.quoted path ++ ": " ++ reason
  | .notFound path segment => path ++ ": no such field " ++ Text.quoted segment
  | .indexOutOfBounds path index length =>
    path ++ ": index " ++ Text.decimal index ++ " is out of bounds (length " ++
      Text.decimal length ++ ")"
  | .notAContainer path segment expected found =>
    path ++ ": " ++ Text.quoted segment ++ " expects " ++ expected ++ ", found " ++ found
  | .unexpectedType path expected found =>
    path ++ ": expected " ++ expected ++ ", found " ++ found
  | .invalidBody found => "resource body must be an object, found " ++ found

def path? : PathError → Option String
  | .invalidPath path _ => some path
  | .notFound path _ => some path
  | .indexOutOfBounds path _ _ => some path
  | .notAContainer path _ _ _ => some path
  | .unexpectedType path _ _ => some path
  | .invalidBody _ => none

def isNotFound : PathError → Bool
  | .notFound _ _ => true
  | .indexOutOfBounds _ _ _ => true
  | _ => false

end PathError

end Rollout
