import Rollout.Reference.Codec

set_option autoImplicit false

namespace Rollout

structure RecordedScope where
  reference : Reference
  deriving DecidableEq

structure WorkloadStatus where
  reference : Reference
  scopes : List RecordedScope := []
  deriving DecidableEq

namespace RecordedScope

def ofTree? (tree : Tree) : Option RecordedScope := do
  match ← Record.columns ["scopeRef"] tree with
  | [reference] => some { reference := ← Record.required Reference.ofTree? reference }
  | _ => none

def toTree (scope : RecordedScope) : Tree :=
  .object [("scopeRef", scope.reference.toTree)]

end RecordedScope

namespace WorkloadStatus

def scopeReferences (status : WorkloadStatus) : List Reference :=
  status.scopes.map (·.reference)

def find? (statuses : List WorkloadStatus) (workload : Reference) : Option WorkloadStatus :=
  statuses.find? fun status => status.reference.Matches workload

def position? (statuses : List WorkloadStatus) (workload : Reference) : Option Nat :=
  statuses.findIdx? fun status => status.reference.Matches workload

def ofTree? (tree : Tree) : Option WorkloadStatus := do
  match ← Record.columns ["workloadRef", "scopes"] tree with
  | [reference, scopes] =>
    some {
      reference := ← Record.required Reference.ofTree? reference
      scopes := ← Record.defaulted [] (Record.list RecordedScope.ofTree?) scopes }
  | _ => none

def toTree (status : WorkloadStatus) : Tree :=
  match status.scopes with
  | [] => .object [("workloadRef", status.reference.toTree)]
  | scopes =>
    .object [("scopes", .array (scopes.map (·.toTree))),
      ("workloadRef", status.reference.toTree)]

end WorkloadStatus

end Rollout
