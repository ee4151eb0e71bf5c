import Rollout.Config.Basic
import Rollout.Engine.Dialogue
import Rollout.Scope.Plan

/-! Enrolment: bringing the member lists of scopes in line with a plan. A scope is
written only if its member list changes. -/

set_option autoImplicit false

namespace Rollout.Enrolment

/-- The member list of a scope; one that is missing or null is empty. -/
def members (config : Config) (scope : Resource) : Except PathError (List Tree) :=
  match scope.get config.workloadRefsPath with
  | .ok (.array items) => .ok items
  | .ok .null => .ok []
  | .ok other => .error (.unexpectedType config.workloadRefsPath Shape.array.name other.shape.name)
  | .error error => if error.isNotFound then .ok [] else .error error

def joined (workload : Reference) (members : List Tree) : Option (List Tree) :=
  if members.any fun entry => workload.MatchesEntry entry then none
  else some (members ++ [workload.entry])

def left (workload : Reference) (members : List Tree) : Option (List Tree) :=
  if members.any fun entry => workload.MatchesEntry entry then
    some (members.filter fun entry => ¬ workload.MatchesEntry entry)
  else none

/-- Writes a new member list into a fetched scope and the scope back to the store. -/
def write (config : Config) (key workload : Reference) (scope : Resource) (members : List Tree) :
    Dialogue Unit :=
  let change := scope.set config.workloadRefsPath (.array members)
  match change.failure with
  | some error => .fail (.updateScope key workload (.attribute error))
  | none => do
    .check "update_scope"
    .call (.update .scope change.resource) fun refusal =>
      .updateScope key workload (.store refusal)

def edit (config : Config) (key workload : Reference) (scope : Resource)
    (change : List Tree → Option (List Tree)) (unchanged : Event) : Dialogue Bool :=
  match members config scope with
  | .error error => .fail (.updateScope key workload (.attribute error))
  | .ok members =>
    match change members with
    | none => do
      .tell unchanged
      return false
    | some changed => do
      write config key workload scope changed
      return true

def add (config : Config) (workload key : Reference) : Dialogue Bool := do
  .check "get_scope"
  .ask (.get key) fun
    | .ok scope => edit config key workload scope (joined workload) (.alreadyMember key workload)
    | .error refusal => .fail (.getScope key workload refusal)

def remove (config : Config) (workload key : Reference) : Dialogue Bool := do
  .check "get_scope"
  .ask (.get key) fun
    | .ok scope => edit config key workload scope (left workload) (.notMember key workload)
    | .error refusal =>
      if refusal.isNotFound && config.ignoreMissingScopeOnRemoval then do
        .tell (.scopeGone key workload)
        return false
      else .fail (.getScope key workload refusal)

structure Changes where
  added : List Reference := []
  removed : List Reference := []
  deriving DecidableEq

def carryOut (config : Config) (workload : Reference) (plan : ScopePlan) : Dialogue Changes := do
  let added ← .select (add config workload) plan.toAdd
  let removed ← .select (remove config workload) plan.toRemove
  return { added := added, removed := removed }

def reconcile (config : Config) (workload : Reference) (desired : List Resource)
    (recorded : List Reference) : Dialogue Changes :=
  carryOut config workload (ScopePlan.of workload desired recorded)

end Rollout.Enrolment
