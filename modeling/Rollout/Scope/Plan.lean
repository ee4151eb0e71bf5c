import Rollout.Resource

/-! Scope plans: which scopes to visit for a workload. Every desired scope is visited, so that
a stale or missing record never costs a membership; a recorded scope is visited only if it is
not desired any more. -/

set_option autoImplicit false

namespace Rollout

/-- The key of a scope, which lies in the workload's namespace unless it names another. -/
def Reference.scopeKey (scope workload : Reference) : Reference :=
  (scope.inheritNamespace workload.space?).withoutUid

structure ScopePlan where
  toAdd : List Reference := []
  toRemove : List Reference := []
  deriving DecidableEq

namespace ScopePlan

/-- The keys that match none of those seen, each standing for all later keys that it matches. -/
def collect : List Reference → List Reference → List Reference
  | _, [] => []
  | seen, key :: rest =>
    if seen.any fun other => other.Matches key then collect seen rest
    else key :: collect (key :: seen) rest

def of (workload : Reference) (desired : List Resource) (recorded : List Reference) : ScopePlan :=
  let toAdd := collect [] (desired.map fun scope => scope.reference.scopeKey workload)
  { toAdd := toAdd
    toRemove := collect toAdd (recorded.map fun scope => scope.scopeKey workload) }

end ScopePlan

end Rollout
