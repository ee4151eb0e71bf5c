import Rollout.Resource

/-! Store keys: the identity under which a store keeps a resource, ordered by API version, then
kind, then namespace, then name. -/

set_option autoImplicit false

namespace Rollout

structure Key where
  apiVersion : String
  kind : String
  /-- Empty for a resource without a namespace. -/
  space : String
  name : String
  deriving DecidableEq

namespace Key

def parts (key : Key) : List String := [key.apiVersion, key.kind, key.space, key.name]

instance : LT Key := ⟨fun left right => left.parts < right.parts⟩

instance (left right : Key) : Decidable (left < right) :=
  inferInstanceAs (Decidable (left.parts < right.parts))

/-- A reference without a namespace names the key in any namespace. -/
def Names (reference : Reference) (key : Key) : Prop :=
  key.apiVersion = reference.apiVersion ∧ key.kind = reference.kind ∧ key.name = reference.name ∧
    (reference.space? = none ∨ reference.space? = some key.space)

instance (reference : Reference) (key : Key) : Decidable (Names reference key) := by
  unfold Names; infer_instance

theorem parts_injective {left right : Key} (same : left.parts = right.parts) : left = right := by
  cases left
  cases right
  simpa [parts] using same

theorem lt_irrefl (key : Key) : ¬ key < key := List.lt_irrefl key.parts

theorem lt_trans {first second third : Key} (before : first < second) (after : second < third) :
    first < third :=
  List.lt_trans before after

theorem lt_of_not_lt_of_ne {left right : Key} (notBefore : ¬ left < right) (differ : left ≠ right) :
    right < left := by
  by_cases before : right < left
  · exact before
  · exact absurd (parts_injective (List.le_antisymm before notBefore)) differ

end Key

def Resource.key (resource : Resource) : Key where
  apiVersion := resource.apiVersion
  kind := resource.kind
  space := resource.space?.getD ""
  name := resource.name

end Rollout
