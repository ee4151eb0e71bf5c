import Rollout.Proofs.Identity

/-! Resources under edits. A resource that is given a namespace, a uid or the value at some path, as
often as one likes, stays an object, since no path leads to the body itself or to an item of it. A
namespace and a uid are what they were last said to be and take nothing else along; a change that
fails does not touch the identity, whatever it leaves elsewhere. -/

set_option autoImplicit false

namespace Rollout

inductive Edit where
  | placed (space : String)
  | known (uid : String)
  | changed (path : String) (value : Tree)

/-- What an edit makes of a body of any kind. Metadata is made in objects only; a value may be
written into anything. -/
def Edit.apply : Edit → Tree → Tree
  | .placed space, .object fields => (Resource.withNamespace space ⟨fields⟩).tree
  | .known uid, .object fields => (Resource.withUid uid ⟨fields⟩).tree
  | .changed path value, body => (body.set path value).tree
  | _, body => body

namespace Resource

def edited (resource : Resource) : Edit → Resource
  | .placed space => resource.withNamespace space
  | .known uid => resource.withUid uid
  | .changed path value => (resource.set path value).resource

theorem tree_edited (resource : Resource) (edit : Edit) :
    (resource.edited edit).tree = edit.apply resource.tree := by
  cases edit with
  | placed space => rfl
  | known uid => rfl
  | changed path value => exact resource.tree_set path value

theorem tree_foldl_edited (start : Resource) (edits : List Edit) :
    (edits.foldl edited start).tree =
      edits.foldl (fun body edit => edit.apply body) start.tree := by
  induction edits generalizing start with
  | nil => rfl
  | cons edit rest ih => rw [List.foldl_cons, List.foldl_cons, ih (start.edited edit), tree_edited]

variable (resource : Resource) (name value : String)

theorem metadata?_setMetadata :
    (resource.setMetadata name value).metadata? =
      some (Fields.set name (.string value) (resource.metadata?.getD [])) := by
  simp only [metadata?, setMetadata, Fields.find?_set_self]

theorem metadataField?_setMetadata_self :
    (resource.setMetadata name value).metadataField? name = some value := by
  rw [metadataField?, metadata?_setMetadata, Option.bind_some, Fields.find?_set_self]
  rfl

theorem metadataField?_setMetadata_of_ne {name other : String} (differ : name ≠ other) :
    (resource.setMetadata name value).metadataField? other = resource.metadataField? other := by
  rw [metadataField?, metadata?_setMetadata, Option.bind_some, Fields.find?_set_of_ne differ,
    metadataField?]
  cases resource.metadata? with
  | none => rfl
  | some metadata => rfl

theorem field?_setMetadata {field : String} (differ : "metadata" ≠ field) :
    (resource.setMetadata name value).field? field = resource.field? field := by
  simp only [field?, setMetadata, Fields.find?_set_of_ne differ]

theorem apiVersion_setMetadata :
    (resource.setMetadata name value).apiVersion = resource.apiVersion :=
  congrArg (·.getD "") (resource.field?_setMetadata name value (by decide))

theorem kind_setMetadata : (resource.setMetadata name value).kind = resource.kind :=
  congrArg (·.getD "") (resource.field?_setMetadata name value (by decide))

theorem reference_withNamespace (space : String) :
    (resource.withNamespace space).reference =
      { resource.reference with space? := some space } := by
  have others {field : String} (differ : "namespace" ≠ field) :=
    resource.metadataField?_setMetadata_of_ne space differ
  have sameName : (resource.withNamespace space).name = resource.name :=
    congrArg (·.getD "") (others (by decide))
  have sameUid : (resource.withNamespace space).uid? = resource.uid? := others (by decide)
  have given : (resource.withNamespace space).space? = some space :=
    resource.metadataField?_setMetadata_self "namespace" space
  simp only [reference, sameName, sameUid, given]
  rw [withNamespace, apiVersion_setMetadata, kind_setMetadata]

theorem reference_withUid (uid : String) :
    (resource.withUid uid).reference = { resource.reference with uid? := some uid } := by
  have others {field : String} (differ : "uid" ≠ field) :=
    resource.metadataField?_setMetadata_of_ne uid differ
  have sameName : (resource.withUid uid).name = resource.name :=
    congrArg (·.getD "") (others (by decide))
  have sameSpace : (resource.withUid uid).space? = resource.space? := others (by decide)
  have given : (resource.withUid uid).uid? = some uid :=
    resource.metadataField?_setMetadata_self "uid" uid
  simp only [reference, sameName, sameSpace, given]
  rw [withUid, apiVersion_setMetadata, kind_setMetadata]

variable {resource : Resource} {path : String} {value : Tree}

theorem textAt?_set_of_failure (failed : (resource.set path value).failure ≠ none)
    (names : List String) :
    (resource.set path value).resource.tree.textAt? names = resource.tree.textAt? names :=
  (resource.textAt?_set_cases path value names).resolve_right fun put => failed put.1

theorem reference_set_of_failure (failed : (resource.set path value).failure ≠ none) :
    (resource.set path value).resource.reference = resource.reference := by
  simp only [reference, apiVersion, kind, name, space?, uid?, field?_eq_textAt?,
    metadataField?_eq_textAt?, textAt?_set_of_failure failed]

/-- However a resource was made and edited, its body is an object, the one that the edits make of
the body alone. Then a namespace or a uid that is given is all that changes in its identity, also
where there was no metadata or none that is an object, and a change that fails leaves the whole
identity as it is. -/
theorem edits_keep_identity (start : Resource) (edits : List Edit) :
    let resource := edits.foldl edited start
    (∃ fields, edits.foldl (fun body edit => edit.apply body) start.tree = .object fields ∧
        Resource.ofTree (.object fields) = .ok resource) ∧
      (∀ space, (resource.withNamespace space).reference =
        { resource.reference with space? := some space }) ∧
      (∀ uid, (resource.withUid uid).reference = { resource.reference with uid? := some uid }) ∧
      ∀ path value, (resource.set path value).failure ≠ none →
        (resource.set path value).resource.reference = resource.reference := by
  intro resource
  have body := tree_foldl_edited start edits
  exact ⟨⟨resource.fields, body.symm, rfl⟩, resource.reference_withNamespace,
    resource.reference_withUid, fun _ _ failed => reference_set_of_failure failed⟩

example :
    let body := [Edit.changed "metadata" .null, .changed "metadata.name[2]" (.string "w")].foldl
      (fun body edit => edit.apply body) (.object [("kind", .string "Web")])
    body = .object [("kind", .string "Web"), ("metadata", .object [("name", .array [])])] ∧
      (Edit.placed "n").apply body = .object [("kind", .string "Web"),
        ("metadata", .object [("name", .array []), ("namespace", .string "n")])] := by
  decide +kernel

end Resource

end Rollout
