import Rollout.Tree.Fields

/-! References: the identity of a resource without its body. Two references match when they
may name the same resource; the uid never counts, because a resource that was deleted and
made again has a new one. -/

set_option autoImplicit false

namespace Rollout

structure Reference where
  apiVersion : String
  kind : String
  name : String
  space? : Option String := none
  uid? : Option String := none
  deriving DecidableEq

namespace Reference

/-- API version, kind and name agree, and so does the namespace where both sides carry one. -/
def Matches (left right : Reference) : Prop :=
  left.apiVersion = right.apiVersion ∧ left.kind = right.kind ∧ left.name = right.name ∧
    (left.space? = none ∨ right.space? = none ∨ left.space? = right.space?)

instance (left right : Reference) : Decidable (left.Matches right) := by
  unfold Matches; infer_instance

/-- An entry of a member list refers to the resource: an object with the same API version,
kind and name, whatever else it holds. -/
def MatchesEntry (reference : Reference) (entry : Tree) : Prop :=
  match entry with
  | .object fields =>
    Fields.find? "apiVersion" fields = some (.string reference.apiVersion) ∧
      Fields.find? "kind" fields = some (.string reference.kind) ∧
      Fields.find? "name" fields = some (.string reference.name)
  | _ => False

instance (reference : Reference) (entry : Tree) : Decidable (reference.MatchesEntry entry) := by
  cases entry <;> unfold MatchesEntry <;> infer_instance

def entry (reference : Reference) : Tree :=
  .object [("apiVersion", .string reference.apiVersion), ("kind", .string reference.kind),
    ("name", .string reference.name)]

def text (reference : Reference) : String :=
  reference.apiVersion ++ " " ++ reference.kind ++ " " ++
    match reference.space? with
    | some space => space ++ "/" ++ reference.name
    | none => reference.name

/-- The reference in the given namespace, if it carries none itself. -/
def inheritNamespace (reference : Reference) (space? : Option String) : Reference :=
  { reference with space? := reference.space? <|> space? }

def withoutUid (reference : Reference) : Reference :=
  { reference with uid? := none }

theorem Matches.refl (reference : Reference) : reference.Matches reference :=
  ⟨rfl, rfl, rfl, .inr (.inr rfl)⟩

theorem Matches.symm {left right : Reference} (matching : left.Matches right) :
    right.Matches left := by
  obtain ⟨version, kind, name, space⟩ := matching
  refine ⟨version.symm, kind.symm, name.symm, ?_⟩
  rcases space with absent | absent | same
  · exact .inr (.inl absent)
  · exact .inl absent
  · exact .inr (.inr same.symm)

theorem matchesEntry_entry (reference : Reference) : reference.MatchesEntry reference.entry := by
  simp [MatchesEntry, entry, Fields.find?]

end Reference

end Rollout
