import Rollout.Log.Operation

set_option autoImplicit false

namespace Rollout

inductive Event where
  | applyStarted (request : Request) (workloads : Nat)
  | applyEnded (request : Request)
  | applyFailed (request : Request) (error : ApplyError)
  | workloadStarted (workload : Reference) (traits scopes : Nat)
  | workloadEnded (workload : Reference) (added removed : Nat)
  | traitApplied (workload : Reference) (name : String) (injected : Bool)
  | alreadyMember (scope workload : Reference)
  | notMember (scope workload : Reference)
  | scopeGone (scope workload : Reference)
  | orphanDereferenced (workload : Reference) (removed : Nat)
  deriving DecidableEq

namespace Event

def component : String × String := ("component", "appconf_core::apply")

def requestFields (request : Request) : List (String × String) :=
  ("request_id", request.requestId) :: Log.field? "trace_id" request.traceId?

def skipped (operation message : String) (scope workload : Reference) : Log.Record where
  level := .debug
  fields := [("op", operation), ("event", "skip"), ("scope", scope.text),
    ("workload", workload.text), ("message", message)]

/-- The record of an event, without the time that the operation took. -/
def record : Event → Log.Record
  | .applyStarted request workloads =>
    Log.started "apply" (component :: requestFields request ++
      [("workload_count", Text.decimal workloads)])
  | .applyEnded request => Log.ended "apply" (component :: requestFields request)
  | .applyFailed request error =>
    Log.failed "apply" ((Report.ofApply error).withRequest request)
      (component :: requestFields request)
  | .workloadStarted workload traits scopes =>
    Log.started "apply_workload" [component, ("workload", workload.name),
      ("trait_count", Text.decimal traits), ("scope_count", Text.decimal scopes)]
  | .workloadEnded workload added removed =>
    Log.ended "apply_workload" [component, ("workload", workload.name),
      ("scopes_added", Text.decimal added), ("scopes_removed", Text.decimal removed)]
  | .traitApplied workload name injected =>
    { level := .debug
      fields := [("op", "apply_trait"), ("workload", workload.name), ("trait_name", name),
        ("injected", if injected then "true" else "false"), ("message", "trait applied")] }
  | .alreadyMember scope workload =>
    skipped "add_scope_member" "workload already referenced by scope" scope workload
  | .notMember scope workload =>
    skipped "remove_scope_member" "workload not referenced by scope" scope workload
  | .scopeGone scope workload =>
    skipped "remove_scope_member" "scope no longer exists" scope workload
  | .orphanDereferenced workload removed =>
    { level := .info
      fields := [("op", "dereference_orphan"), ("workload", workload.name),
        ("scopes_removed", Text.decimal removed),
        ("message", "removed scope references of workload no longer desired")] }

end Event

end Rollout
