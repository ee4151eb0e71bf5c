import Rollout.Record
import Rollout.Resource

set_option autoImplicit false

namespace Rollout

structure TraitType where
  workloadRefPath? : Option String := none
  deriving DecidableEq

namespace TraitType

/-- An empty path counts as none. -/
def injectionPath? (traitType : TraitType) : Option String :=
  traitType.workloadRefPath?.filter (· ≠ "")

def ofTree? (tree : Tree) : Option TraitType := do
  match ← Record.columns ["workloadRefPath"] tree with
  | [path] => some { workloadRefPath? := ← Record.optional Tree.text? path }
  | _ => none

def toTree (traitType : TraitType) : Tree :=
  .object (Record.entry? "workloadRefPath" traitType.workloadRefPath?)

end TraitType

/-- Writes the workload's member entry at the path; without a path, or with an empty one,
the body stays as it is. -/
def Resource.inject (body : Resource) (path? : Option String) (workload : Reference) :
    Resource.Change :=
  match path?.filter (· ≠ "") with
  | none => ⟨body, none⟩
  | some path => body.set path workload.entry

end Rollout
