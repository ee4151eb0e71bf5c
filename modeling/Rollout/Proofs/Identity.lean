import Rollout.Proofs.Lens
import Rollout.Store.Key

/-! Writing a list where no text and no object stands leaves every text in the tree as it is, so
that a resource whose member list is rewritten keeps its identity, whatever path the list is at. -/

set_option autoImplicit false

namespace Rollout

namespace Tree

def textAt? : List String → Tree → Option String
  | [], node => node.text?
  | name :: rest, node => (Fields.find? name node.fields).bind (textAt? rest)

theorem textAt?_null (names : List String) : textAt? names .null = none := by
  cases names <;> rfl

theorem textAt?_array (names : List String) (items : List Tree) :
    textAt? names (.array items) = none := by
  cases names <;> rfl

/-- Where a list may be put: nothing is there yet, or null, or a list. -/
def Listable (found : Except Obstacle Tree) : Prop :=
  ∀ node, found = .ok node → node = .null ∨ ∃ items, node = .array items

theorem place_index (items : List Tree) (position : Nat) (child : Tree) :
    ∃ after, (Tree.array items).place (.index position) child = .array after := by
  by_cases within : position < items.length
  · exact ⟨items.set position child, by simp only [place, within, if_true]⟩
  · exact ⟨items ++ [child], by simp only [place, within, if_false]⟩

theorem textAt?_opened (names : List String) (node : Tree) (segment : Segment) :
    textAt? names (node.opened segment) = textAt? names node := by
  cases node with
  | null => cases segment <;> cases names <;> rfl
  | _ => rfl

theorem bind_textAt? (names : List String) (child? : Option Tree) :
    child?.bind (textAt? names) = textAt? names (child?.getD .null) := by
  cases child? with
  | none => exact (textAt?_null names).symm
  | some child => rfl

/-- A text is as it was after a write, unless the write succeeded at the place of the text or
above it; then it is that which the written value holds. -/
theorem textAt?_write_cases (segments : List Segment) (node value : Tree) (names : List String) :
    textAt? names (write value segments node).tree = textAt? names node ∨
      (write value segments node).failure = none ∧ ∃ above rest : List String,
        names = above ++ rest ∧ segments = above.map .field ∧
          textAt? names (write value segments node).tree = textAt? rest value := by
  induction segments generalizing node names with
  | nil => exact .inr ⟨rfl, [], names, rfl, rfl, rfl⟩
  | cons segment deeper ih =>
      cases found : (node.opened segment).slot segment with
      | error obstacle =>
          rw [write_cons_error deeper value found]
          exact .inl (textAt?_opened names node segment)
      | ok below =>
          rw [write_cons deeper value found, ← textAt?_opened names node segment]
          rcases slot_cases found with ⟨name, fields, rfl, opened, same⟩ |
            ⟨position, others, rfl, opened, -⟩ | ⟨others, rfl, opened, -⟩
          · rw [opened]
            cases names with
            | nil => exact .inl rfl
            | cons wanted names =>
                simp only [place, textAt?, Tree.fields]
                by_cases here : name = wanted
                · subst here
                  rw [Fields.find?_set_self, Option.bind_some, bind_textAt?, ← same]
                  rcases ih below names with kept | ⟨succeeded, above, rest, rfl, rfl, put⟩
                  · exact .inl kept
                  · exact .inr ⟨succeeded, name :: above, rest, rfl, rfl, put⟩
                · rw [Fields.find?_set_of_ne here]
                  exact .inl rfl
          all_goals
            obtain ⟨after, placed⟩ := place_index others _ (write value deeper below).tree
            rw [opened, placed]
            exact .inl ((textAt?_array names after).trans (textAt?_array names others).symm)

theorem read_of_textAt? {above rest : List String} {node : Tree} {text : String}
    (there : textAt? (above ++ rest) node = some text) :
    ∃ child, read (above.map .field) node = .ok child ∧ textAt? rest child = some text := by
  induction above generalizing node with
  | nil => exact ⟨node, rfl, there⟩
  | cons name above ih =>
      obtain ⟨child, found, deeper⟩ := Option.bind_eq_some_iff.mp there
      have stepped : node.child (.field name) = .ok child := by
        cases node with
        | object fields =>
            have found : Fields.find? name fields = some child := found
            simp only [Tree.child, found]
        | _ => cases found
      rw [List.map_cons, read_cons _ stepped]
      exact ih deeper

theorem textAt?_write {segments : List Segment} {node : Tree} {items : List Tree}
    (listable : Listable (read segments node)) (names : List String) :
    textAt? names (write (.array items) segments node).tree = textAt? names node := by
  rcases textAt?_write_cases segments node (.array items) names with
    kept | ⟨-, above, rest, rfl, rfl, put⟩
  · exact kept
  · rw [put, textAt?_array]
    cases before : textAt? (above ++ rest) node with
    | none => rfl
    | some text =>
        obtain ⟨child, found, there⟩ := read_of_textAt? before
        rcases listable child found with rfl | ⟨old, rfl⟩
        · rw [textAt?_null] at there
          cases there
        · rw [textAt?_array] at there
          cases there

end Tree

namespace Resource

theorem field?_eq_textAt? (name : String) (resource : Resource) :
    resource.field? name = resource.tree.textAt? [name] := by
  rfl

theorem metadataField?_eq_textAt? (name : String) (resource : Resource) :
    resource.metadataField? name = resource.tree.textAt? ["metadata", name] := by
  simp only [metadataField?, metadata?, Tree.textAt?, tree, Tree.fields]
  cases Fields.find? "metadata" resource.fields with
  | none => rfl
  | some node => cases node <;> rfl

theorem textAt?_set_cases (resource : Resource) (path : String) (value : Tree)
    (names : List String) :
    (resource.set path value).resource.tree.textAt? names = resource.tree.textAt? names ∨
      (resource.set path value).failure = none ∧ ∃ above rest : List String,
        names = above ++ rest ∧ Path.parse path = .ok (above.map .field) ∧
          (resource.set path value).resource.tree.textAt? names = value.textAt? rest := by
  rw [tree_set]
  cases parsed : Path.parse path with
  | error reason =>
      simp only [Tree.set, parsed]
      exact .inl trivial
  | ok segments =>
      simp only [set, Tree.set_parsed parsed]
      rcases Tree.textAt?_write_cases segments resource.tree value names with
        kept | ⟨succeeded, above, rest, split, rfl, put⟩
      · exact .inl kept
      · exact .inr ⟨by rw [succeeded]; rfl, above, rest, split, rfl, put⟩

variable {resource : Resource} {path : String} {items : List Tree}

/-- A resource is still the same one after a list was put at a path where no text and no object
was. -/
theorem reference_set
    (listable : ∀ node, resource.get path = .ok node → node = .null ∨ ∃ old, node = .array old)
    (succeeded : (resource.set path (.array items)).failure = none) :
    (resource.set path (.array items)).resource.reference = resource.reference := by
  obtain ⟨segments, parsed, -, left⟩ := set_cases succeeded
  have kept (names : List String) :
      (resource.set path (.array items)).resource.tree.textAt? names =
        resource.tree.textAt? names := by
    rw [left]
    refine Tree.textAt?_write ?_ names
    intro node found
    exact listable node (Tree.get_eq_ok_iff.mpr ⟨segments, parsed, found⟩)
  simp only [reference, apiVersion, kind, name, space?, uid?, field?_eq_textAt?,
    metadataField?_eq_textAt?, kept]

theorem key_eq_of_reference {left right : Resource} (same : left.reference = right.reference) :
    left.key = right.key := by
  simp only [reference, Reference.mk.injEq] at same
  simp only [key, same]

end Resource

end Rollout
