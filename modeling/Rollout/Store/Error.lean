import Rollout.Reference
import Rollout.Text.Quoted

set_option autoImplicit false

namespace Rollout

inductive StoreError where
  | notFound (kind name : String)
  | conflict (kind name message : String)
  | backend (message : String)
  deriving DecidableEq

namespace StoreError

def message : StoreError → String
  | .notFound kind name => kind ++ " " ++ Text.quoted name ++ " not found"
  | .conflict kind name message =>
    "conflict writing " ++ kind ++ " " ++ Text.quoted name ++ ": " ++ message
  | .backend message => message

def isNotFound : StoreError → Bool
  | .notFound _ _ => true
  | _ => false

def missing (reference : Reference) : StoreError :=
  .notFound reference.kind reference.name

end StoreError

end Rollout
