import Rollout.Path.Error
import Rollout.Path.Parse
import Rollout.Record

set_option autoImplicit false

namespace Rollout

structure Config where
  workloadRefsPath : String := "spec.workloadRefs"
  dereferenceOrphanedWorkloads : Bool := true
  /-- A scope that no longer exists counts as already left. -/
  ignoreMissingScopeOnRemoval : Bool := true
  deriving DecidableEq

inductive ConfigError where
  | unreadable
  | invalidWorkloadRefsPath (source : PathError)
  deriving DecidableEq

namespace Config

def validate (config : Config) : Except ConfigError Unit :=
  match Path.parse config.workloadRefsPath with
  | .ok _ => .ok ()
  | .error reason =>
    .error (.invalidWorkloadRefsPath (.invalidPath config.workloadRefsPath reason.message))

def columnNames : List String :=
  ["workload_refs_path", "dereference_orphaned_workloads", "ignore_missing_scope_on_removal"]

def ofTree? (tree : Tree) : Option Config := do
  let default : Config := {}
  match ← Record.columns columnNames tree with
  | [path, orphans, missing] =>
    some {
      workloadRefsPath :=
        ← Record.defaulted default.workloadRefsPath Tree.text? path
      dereferenceOrphanedWorkloads :=
        ← Record.defaulted default.dereferenceOrphanedWorkloads Tree.bool? orphans
      ignoreMissingScopeOnRemoval :=
        ← Record.defaulted default.ignoreMissingScopeOnRemoval Tree.bool? missing }
  | _ => none

def toTree (config : Config) : Tree :=
  .object [
    ("dereference_orphaned_workloads", .bool config.dereferenceOrphanedWorkloads),
    ("ignore_missing_scope_on_removal", .bool config.ignoreMissingScopeOnRemoval),
    ("workload_refs_path", .string config.workloadRefsPath)]

end Config

end Rollout
