import Rollout.Context
import Rollout.Path.Error
import Rollout.Store.Error

set_option autoImplicit false

namespace Rollout

/-- What failed in a step that both edits a body and writes it to the store. -/
inductive Cause where
  | store (error : StoreError)
  | attribute (error : PathError)
  deriving DecidableEq

namespace Cause

def message : Cause → String
  | .store error => error.message
  | .attribute error => error.message

def path? : Cause → Option String
  | .store _ => none
  | .attribute error => error.path?

end Cause

inductive ApplyError where
  | applyWorkload (name : String) (source : StoreError)
  | getTraitDefinition (apiVersion kind name : String) (source : StoreError)
  | applyTrait (apiVersion kind name : String) (source : Cause)
  | getScope (scope workload : Reference) (source : StoreError)
  | updateScope (scope workload : Reference) (source : Cause)
  | cancelled (operation : String) (reason : StopReason)
  deriving DecidableEq

namespace ApplyError

def message : ApplyError → String
  | .applyWorkload name source =>
    "cannot apply workload " ++ Text.quoted name ++ ": " ++ source.message
  | .getTraitDefinition apiVersion kind name source =>
    "cannot find trait definition " ++ Text.quoted apiVersion ++ " " ++ Text.quoted kind ++ " " ++
      Text.quoted name ++ ": " ++ source.message
  | .applyTrait apiVersion kind name source =>
    "cannot apply trait " ++ Text.quoted apiVersion ++ " " ++ Text.quoted kind ++ " " ++
      Text.quoted name ++ ": " ++ source.message
  | .getScope scope workload source =>
    "cannot get scope " ++ scope.text ++ " for workload " ++ workload.text ++ ": " ++
      source.message
  | .updateScope scope workload source =>
    "cannot update scope " ++ scope.text ++ " for workload " ++ workload.text ++ ": " ++
      source.message
  | .cancelled operation reason => operation ++ " aborted: " ++ reason.message

def isCancellation : ApplyError → Bool
  | .cancelled _ _ => true
  | _ => false

def attributePath? : ApplyError → Option String
  | .applyTrait _ _ _ source => source.path?
  | .updateScope _ _ source => source.path?
  | _ => none

/-- The texts of the causes below the error, outermost first; a cause that is one of two
kinds has no line of its own. -/
def chain : ApplyError → List String
  | .applyWorkload _ source => [source.message]
  | .getTraitDefinition _ _ _ source => [source.message]
  | .applyTrait _ _ _ source => [source.message]
  | .getScope _ _ source => [source.message]
  | .updateScope _ _ source => [source.message]
  | .cancelled _ _ => []

end ApplyError

end Rollout
