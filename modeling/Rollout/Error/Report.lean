import Rollout.Config.Basic
import Rollout.Error.Basic

/-! Error reports: every error of the library in one structured form, with a stable code, the
identity of the resource at fault, and the reports of its causes. -/

set_option autoImplicit false

namespace Rollout

namespace Report

inductive Kind where
  | applyWorkload
  | getTraitDefinition
  | applyTrait
  | getScope
  | updateScope
  | attributeWrite
  | cancelled
  | notFound
  | conflict
  | externalService
  | invalidPath
  | invalidConfig
  deriving DecidableEq

namespace Kind

def all : List Kind :=
  [.applyWorkload, .getTraitDefinition, .applyTrait, .getScope, .updateScope, .attributeWrite,
    .cancelled, .notFound, .conflict, .externalService, .invalidPath, .invalidConfig]

def name : Kind → String
  | .applyWorkload => "ApplyWorkload"
  | .getTraitDefinition => "GetTraitDefinition"
  | .applyTrait => "ApplyTrait"
  | .getScope => "GetScope"
  | .updateScope => "UpdateScope"
  | .attributeWrite => "AttributeWrite"
  | .cancelled => "Cancelled"
  | .notFound => "NotFound"
  | .conflict => "Conflict"
  | .externalService => "ExternalService"
  | .invalidPath => "InvalidPath"
  | .invalidConfig => "InvalidConfig"

def code : Kind → String
  | .applyWorkload => "ERR_APPLY_WORKLOAD"
  | .getTraitDefinition => "ERR_GET_TRAIT_DEFINITION"
  | .applyTrait => "ERR_APPLY_TRAIT"
  | .getScope => "ERR_GET_SCOPE"
  | .updateScope => "ERR_UPDATE_SCOPE"
  | .attributeWrite => "ERR_ATTRIBUTE_WRITE"
  | .cancelled => "ERR_CANCELLED"
  | .notFound => "ERR_NOT_FOUND"
  | .conflict => "ERR_CONFLICT"
  | .externalService => "ERR_EXTERNAL_SERVICE"
  | .invalidPath => "ERR_INVALID_PATH"
  | .invalidConfig => "ERR_INVALID_CONFIG"

end Kind

end Report

/-- An empty message counts as none. -/
structure Report where
  kind : Report.Kind
  operation? : Option String := none
  apiVersion? : Option String := none
  resourceKind? : Option String := none
  name? : Option String := none
  scope? : Option String := none
  path? : Option String := none
  requestId? : Option String := none
  traceId? : Option String := none
  message : String := ""
  source? : Option Report := none

namespace Report

def withResource (report : Report) (apiVersion kind name : String) : Report :=
  { report with apiVersion? := some apiVersion, resourceKind? := some kind, name? := some name }

def withRequest (report : Report) (request : Request) : Report :=
  { report with requestId? := some request.requestId, traceId? := request.traceId? }

private def part (opening : String) (value? : Option String) (closing : String) : String :=
  match value? with
  | some value => opening ++ value ++ closing
  | none => ""

def text (report : Report) : String :=
  "[" ++ report.kind.code ++ "]" ++
    part " in operation '" report.operation? "'" ++
    part ": " (if report.message = "" then none else some report.message) "" ++
    part " (resource: "
      (match report.apiVersion?, report.resourceKind? with
        | some apiVersion, some kind => some (apiVersion ++ " " ++ kind)
        | _, _ => none) ")" ++
    part " (name: " report.name? ")" ++
    part " (scope: " report.scope? ")" ++
    part " (path: " report.path? ")"

def chain : Report → List String
  | { source? := some source, .. } => source.text :: chain source
  | { source? := none, .. } => []

def ofStore (error : StoreError) : Report :=
  match error with
  | .notFound kind name =>
    { kind := .notFound, name? := some name, message := kind ++ " not found" }
  | .conflict _ name _ => { kind := .conflict, name? := some name, message := error.message }
  | .backend message => { kind := .externalService, message := message }

def ofPath (error : PathError) : Report :=
  { kind := match error with
      | .invalidPath _ _ => .invalidPath
      | _ => .attributeWrite
    path? := error.path?
    message := error.message }

def ofCause : Cause → Report
  | .store error => ofStore error
  | .attribute error => ofPath error

/-- An attribute that cannot be written is reported as such, whichever step hit it. -/
def kindOfCause (step : Kind) : Cause → Kind
  | .store _ => step
  | .attribute _ => .attributeWrite

def ofApply (error : ApplyError) : Report :=
  match error with
  | .applyWorkload name source =>
    { kind := .applyWorkload
      operation? := some "apply_workload"
      name? := some name
      message := error.message
      source? := some (ofStore source) }
  | .getTraitDefinition apiVersion kind name source =>
    { kind := .getTraitDefinition
      operation? := some "get_trait_definition"
      apiVersion? := some apiVersion
      resourceKind? := some kind
      name? := some name
      message := error.message
      source? := some (ofStore source) }
  | .applyTrait apiVersion kind name source =>
    { kind := kindOfCause .applyTrait source
      operation? := some "apply_trait"
      apiVersion? := some apiVersion
      resourceKind? := some kind
      name? := some name
      path? := source.path?
      message := error.message
      source? := some (ofCause source) }
  | .getScope scope workload source =>
    { kind := .getScope
      operation? := some "get_scope"
      apiVersion? := some workload.apiVersion
      resourceKind? := some workload.kind
      name? := some workload.name
      scope? := some scope.name
      message := error.message
      source? := some (ofStore source) }
  | .updateScope scope workload source =>
    { kind := kindOfCause .updateScope source
      operation? := some "update_scope"
      apiVersion? := some workload.apiVersion
      resourceKind? := some workload.kind
      name? := some workload.name
      scope? := some scope.name
      path? := source.path?
      message := error.message
      source? := some (ofCause source) }
  | .cancelled operation _ =>
    { kind := .cancelled, operation? := some operation, message := error.message }

end Report

namespace ConfigError

def message : ConfigError → String
  | .unreadable => "cannot parse apply config"
  | .invalidWorkloadRefsPath source => "invalid workload_refs_path: " ++ source.message

def chain : ConfigError → List String
  | .unreadable => []
  | .invalidWorkloadRefsPath source => [source.message]

def report (error : ConfigError) : Report :=
  { kind := .invalidConfig
    operation? := some "load_config"
    message := error.message
    source? := match error with
      | .unreadable => none
      | .invalidWorkloadRefsPath source => some (Report.ofPath source) }

end ConfigError

end Rollout
