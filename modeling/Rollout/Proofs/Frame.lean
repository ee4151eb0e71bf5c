import Rollout.Proofs.Lens

/-! What a write leaves alone. Two paths that part somewhere lead to different nodes, and a write at
one of them changes nothing that is read at the other: not by opening null nodes, making fields or
appending items on its way, and not by stopping midway. -/

set_option autoImplicit false

namespace Rollout

namespace Segment

/-- The paths part: neither goes on from where the other ends. -/
def Diverge (left right : List Segment) : Prop := ¬ left <+: right ∧ ¬ right <+: left

instance (left right : List Segment) : Decidable (Diverge left right) := by
  unfold Diverge; infer_instance

theorem not_diverge_nil (path : List Segment) : ¬ Diverge path [] :=
  fun diverge => diverge.2 path.nil_prefix

theorem diverge_cons_iff (first second : Segment) (left right : List Segment) :
    Diverge (first :: left) (second :: right) ↔ first = second → Diverge left right := by
  unfold Diverge
  rw [List.cons_prefix_cons, List.cons_prefix_cons]
  constructor
  · intro diverge same
    exact ⟨fun below => diverge.1 ⟨same, below⟩, fun below => diverge.2 ⟨same.symm, below⟩⟩
  · intro deeper
    exact ⟨fun below => (deeper below.1).1 below.2, fun below => (deeper below.1.symm).2 below.2⟩

end Segment

namespace Tree

open Segment (Diverge)

theorem read_cons_eq_ok_iff {segment : Segment} {rest : List Segment} {node found : Tree} :
    read (segment :: rest) node = .ok found ↔
      ∃ child, node.child segment = .ok child ∧ read rest child = .ok found := by
  cases there : node.child segment with
  | error obstacle => simp [read_cons_error rest there]
  | ok child => simp [read_cons rest there]

theorem child_opened (node : Tree) (opening segment : Segment) (child : Tree) :
    (node.opened opening).child segment = .ok child ↔ node.child segment = .ok child := by
  cases node with
  | null => cases opening <;> cases segment <;> simp [opened, Tree.child, Fields.find?]
  | _ => rfl

theorem child_field_eq_ok_iff {name : String} {fields : Fields} {child : Tree} :
    (object fields).child (.field name) = .ok child ↔ Fields.find? name fields = some child := by
  cases there : Fields.find? name fields <;> simp [Tree.child, there]

theorem child_index_eq_ok_iff {position : Nat} {items : List Tree} {child : Tree} :
    (array items).child (.index position) = .ok child ↔ items[position]? = some child := by
  cases there : items[position]? <;> simp [Tree.child, there]

theorem child_place_of_ne {node below : Tree} {segment other : Segment}
    (found : node.slot segment = .ok below) (differ : segment ≠ other) (put child : Tree) :
    (node.place segment put).child other = .ok child ↔ node.child other = .ok child := by
  rcases slot_cases found with ⟨name, fields, rfl, rfl, -⟩ | ⟨position, items, rfl, rfl, there⟩ |
    ⟨items, rfl, rfl, -⟩
  · simp only [place]
    cases other with
    | field wanted =>
        have apart : name ≠ wanted := fun same => differ (congrArg Segment.field same)
        rw [child_field_eq_ok_iff, child_field_eq_ok_iff, Fields.find?_set_of_ne apart]
    | index wanted => simp [Tree.child]
  · obtain ⟨within, -⟩ := List.getElem?_eq_some_iff.mp there
    simp only [place, within, if_true]
    cases other with
    | field wanted => simp [Tree.child]
    | index wanted =>
        have apart : position ≠ wanted := fun same => differ (congrArg Segment.index same)
        rw [child_index_eq_ok_iff, child_index_eq_ok_iff, List.getElem?_set_ne apart]
  · simp only [place, Nat.lt_irrefl, if_false]
    cases other with
    | field wanted => simp [Tree.child]
    | index wanted =>
        have apart : items.length ≠ wanted := fun same => differ (congrArg Segment.index same)
        have same : (items ++ [put])[wanted]? = items[wanted]? := by grind
        rw [child_index_eq_ok_iff, child_index_eq_ok_iff, same]

theorem read_of_slot {node below found : Tree} {segment step : Segment} {steps : List Segment}
    (slot : (node.opened segment).slot segment = .ok below) :
    read (step :: steps) below = .ok found ↔ read (segment :: step :: steps) node = .ok found := by
  rcases child_of_slot slot with there | ⟨⟨obstacle, absent⟩, rfl⟩
  · rw [read_cons _ there]
  · have blocked : null.child step = .error (.missing step) := by cases step <;> rfl
    rw [read_cons_error _ absent, read_cons_error _ blocked]
    simp

/-- A write leaves what is read along a path that parts from its own, be that something or
nothing. -/
theorem read_write_of_diverge {path other : List Segment} (diverge : Diverge path other)
    (value node found : Tree) :
    read other (write value path node).tree = .ok found ↔ read other node = .ok found := by
  induction path generalizing other node with
  | nil => exact absurd other.nil_prefix diverge.1
  | cons segment rest ih =>
      cases other with
      | nil => exact absurd diverge (Segment.not_diverge_nil _)
      | cons step steps =>
          rw [Segment.diverge_cons_iff] at diverge
          cases slot : (node.opened segment).slot segment with
          | error obstacle =>
              rw [write_cons_error rest value slot]
              simp only [read_cons_eq_ok_iff, child_opened]
          | ok below =>
              rw [write_cons rest value slot]
              by_cases same : segment = step
              · subst same
                have deeper := diverge rfl
                rw [read_cons steps (child_place slot _), ih deeper below]
                cases steps with
                | nil => exact absurd deeper (Segment.not_diverge_nil _)
                | cons next steps => exact read_of_slot slot
              · simp only [read_cons_eq_ok_iff, child_place_of_ne slot same, child_opened]

/-- Whether a write succeeds or fails, what can be read at a path that parts from its own can be
read there before and after, and is the same. -/
theorem get_set_of_diverge (tree value : Tree) (path other : String) (steps others : List Segment)
    (parsed : Path.parse path = .ok steps) (parsed' : Path.parse other = .ok others)
    (diverge : Diverge steps others) (found : Tree) :
    (tree.set path value).tree.get other = .ok found ↔ tree.get other = .ok found := by
  rw [set_parsed parsed]
  simp only [get_eq_ok_iff, parsed', Except.ok.injEq, exists_eq_left']
  exact read_write_of_diverge diverge value tree found

theorem get_beside_stopped_write :
    let tree : Tree := object [("a", null), ("l", array [bool true])]
    let after := tree.set "a.b[1]" (bool false)
    after.failure = some (.indexOutOfBounds "a.b[1]" 1 0) ∧
      after.tree = object [("a", object [("b", array [])]), ("l", array [bool true])] ∧
        after.tree.get "l[0]" = .ok (bool true) := by
  refine ⟨by decide, by decide, ?_⟩
  exact (get_set_of_diverge (object [("a", null), ("l", array [bool true])]) (bool false) "a.b[1]"
    "l[0]" [.field "a", .field "b", .index 1] [.field "l", .index 0] rfl rfl (by decide)
    (bool true)).mpr rfl

end Tree

end Rollout
