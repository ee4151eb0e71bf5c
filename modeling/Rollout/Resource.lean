import Rollout.Path.Write
import Rollout.Reference

set_option autoImplicit false

namespace Rollout

structure Resource where
  fields : Fields
  deriving DecidableEq

namespace Resource

def tree (resource : Resource) : Tree := .object resource.fields

def ofTree (body : Tree) : Except PathError Resource :=
  match body with
  | .object fields => .ok ⟨fields⟩
  | other => .error (.invalidBody other.shape.name)

def metadata? (resource : Resource) : Option Fields :=
  match Fields.find? "metadata" resource.fields with
  | some (.object metadata) => some metadata
  | _ => none

def field? (name : String) (resource : Resource) : Option String :=
  (Fields.find? name resource.fields).bind Tree.text?

def metadataField? (name : String) (resource : Resource) : Option String :=
  (resource.metadata?.bind (Fields.find? name)).bind Tree.text?

/-! ### Identity

A part that is missing or is not a string counts as empty, or as absent where a reference
may do without it. -/

def apiVersion (resource : Resource) : String := (resource.field? "apiVersion").getD ""

def kind (resource : Resource) : String := (resource.field? "kind").getD ""

def name (resource : Resource) : String := (resource.metadataField? "name").getD ""

def space? (resource : Resource) : Option String := resource.metadataField? "namespace"

def uid? (resource : Resource) : Option String := resource.metadataField? "uid"

def reference (resource : Resource) : Reference where
  apiVersion := resource.apiVersion
  kind := resource.kind
  name := resource.name
  space? := resource.space?
  uid? := resource.uid?

/-- Metadata that is missing or is not an object is made anew. -/
def setMetadata (name value : String) (resource : Resource) : Resource :=
  let metadata := resource.metadata?.getD []
  ⟨Fields.set "metadata" (.object (Fields.set name (.string value) metadata)) resource.fields⟩

def withNamespace (space : String) (resource : Resource) : Resource :=
  resource.setMetadata "namespace" space

def withUid (uid : String) (resource : Resource) : Resource :=
  resource.setMetadata "uid" uid

def new (apiVersion kind name : String) : Resource :=
  setMetadata "name" name ⟨[("apiVersion", .string apiVersion), ("kind", .string kind)]⟩

def get (resource : Resource) (path : String) : Except PathError Tree :=
  resource.tree.get path

/-- The resource that a write leaves behind, and what stopped the write, if anything did. -/
structure Change where
  resource : Resource
  failure : Option PathError

def set (resource : Resource) (path : String) (value : Tree) : Change :=
  let written := resource.tree.set path value
  ⟨⟨written.tree.fields⟩, written.failure⟩

theorem tree_set (resource : Resource) (path : String) (value : Tree) :
    (resource.set path value).resource.tree = (resource.tree.set path value).tree := by
  obtain ⟨after, left⟩ := Tree.set_object path value resource.fields
  simp [set, tree, left, Tree.fields]

end Resource

end Rollout
