import Rollout.Resource

set_option autoImplicit false

namespace Rollout

structure Workload where
  body : Resource
  /-- Applied in order, after the workload itself. -/
  traits : List Resource := []
  scopes : List Resource := []
  deriving DecidableEq

def Workload.reference (workload : Workload) : Reference := workload.body.reference

/-- What a resource is to the pass that hands it to the store. -/
inductive Role where
  | workload
  | trait
  | scope
  deriving DecidableEq

def Role.name : Role → String
  | .workload => "workload"
  | .trait => "trait"
  | .scope => "scope"

end Rollout
