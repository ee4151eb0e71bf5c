import Rollout.Config.Basic
import Rollout.Toml.Document

set_option autoImplicit false

namespace Rollout.Config

/-- A setting that is left out keeps its default; one of the wrong type is an error, and
names that are no settings do not matter. -/
def setting {α : Type} (entries : Toml.Entries) (name : String) (default : α)
    (read : Toml.Value → Option α) : Option α :=
  match entries.lookup name with
  | none => some default
  | some (.value value) => read value
  | some _ => none

def ofEntries? (entries : Toml.Entries) : Option Config := do
  let default : Config := {}
  some {
    workloadRefsPath :=
      ← setting entries "workload_refs_path" default.workloadRefsPath fun
        | .string text => some text
        | _ => none
    dereferenceOrphanedWorkloads :=
      ← setting entries "dereference_orphaned_workloads" default.dereferenceOrphanedWorkloads
        truth?
    ignoreMissingScopeOnRemoval :=
      ← setting entries "ignore_missing_scope_on_removal" default.ignoreMissingScopeOnRemoval
        truth? }
where
  truth? : Toml.Value → Option Bool
    | .boolean value => some value
    | _ => none

def ofDocument (text : String) : Except ConfigError Config :=
  match (Toml.document? text).bind ofEntries? with
  | none => .error .unreadable
  | some config => config.validate.map fun _ => config

end Rollout.Config
