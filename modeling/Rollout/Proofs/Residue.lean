import Rollout.Proofs.Spelling
import Rollout.Proofs.Stops

/-! What a write that is stopped leaves behind. It leaves the tree as it was, unless it is stopped
at an array that it made itself; that array stays, with the containers that were made for it, and
is all that there is to see of the write. To write again is to be stopped again, for the same
reason and without a trace. -/

set_option autoImplicit false

namespace Rollout.Tree

/-- A write comes through the steps before, and meets the obstacle in what stands there. -/
structure BreaksAt (tree : Tree) (before : List Segment) (segment : Segment) (obstacle : Obstacle) :
    Prop where
  through : (write null before tree).failure = none
  blocked : ((nodeAt before tree).opened segment).slot segment = .error obstacle

variable {tree node value : Tree} {before after segments : List Segment} {segment : Segment}
  {obstacle : Obstacle}

theorem exists_breaksAt (stopped : (write value segments tree).failure = some obstacle) :
    ∃ before segment after, segments = before ++ segment :: after ∧
      tree.BreaksAt before segment obstacle := by
  induction segments generalizing tree with
  | nil => cases stopped
  | cons first rest ih =>
      cases found : (tree.opened first).slot first with
      | error barrier =>
          rw [write_cons_error rest value found] at stopped
          cases stopped
          exact ⟨[], first, rest, rfl, rfl, found⟩
      | ok below =>
          rw [write_cons rest value found] at stopped
          obtain ⟨before, segment, after, rfl, through, blocked⟩ := ih stopped
          refine ⟨first :: before, segment, after, rfl, ?_, ?_⟩
          · rw [write_cons before null found]
            exact through
          · rw [nodeAt_cons before found]
            exact blocked

theorem BreaksAt.write_eq (breaks : tree.BreaksAt before segment obstacle) (after : List Segment)
    (value : Tree) :
    write value (before ++ segment :: after) tree =
      ⟨(write ((nodeAt before tree).opened segment) before tree).tree, some obstacle⟩ := by
  rw [write_append breaks.through, write_cons_error after value breaks.blocked]

theorem BreaksAt.left_of_read (breaks : tree.BreaksAt before segment obstacle)
    (found : read before tree = .ok node) (present : node ≠ null) (after : List Segment)
    (value : Tree) : (write value (before ++ segment :: after) tree).tree = tree := by
  have closed : node.opened segment = node := by
    cases node with
    | null => exact absurd rfl present
    | _ => rfl
  rw [breaks.write_eq, nodeAt_of_read found, closed, write_read found]

theorem index_of_slot_opened_null (blocked : (null.opened segment).slot segment = .error obstacle) :
    ∃ position, position ≠ 0 ∧ segment = .index position ∧ obstacle = .pastEnd position 0 := by
  cases segment with
  | field name => cases blocked
  | index position =>
      by_cases first : position = 0
      · simp [opened, slot, first] at blocked
      · refine ⟨position, first, rfl, ?_⟩
        simpa [opened, slot, first, eq_comm] using blocked

theorem opened_opened (node : Tree) (segment : Segment) :
    (node.opened segment).opened segment = node.opened segment := by
  cases node with
  | null => cases segment <;> rfl
  | _ => rfl

/-- The node that was opened is met by the next write, and needs no opening. -/
theorem BreaksAt.write_again (breaks : tree.BreaksAt before segment obstacle)
    (after : List Segment) (value : Tree) :
    let left := (write value (before ++ segment :: after) tree).tree
    write value (before ++ segment :: after) left = ⟨left, some obstacle⟩ := by
  rw [breaks.write_eq]
  intro left
  have through : (write ((nodeAt before tree).opened segment) before tree).failure = none := by
    rw [failure_write before tree _ null]
    exact breaks.through
  have standing : read before left = .ok ((nodeAt before tree).opened segment) := read_write through
  have kept := write_read standing
  have blocked : (((nodeAt before tree).opened segment).opened segment).slot segment =
      .error obstacle := by
    rw [opened_opened]
    exact breaks.blocked
  rw [write_append (congrArg Written.failure kept), nodeAt_of_read standing,
    write_cons_error after value blocked, opened_opened, kept]

/-- A write at the path fills in an array after the first steps, be it for a null node or where
nothing is yet, and then wants a position in it that it does not have. -/
structure MakesArray (tree : Tree) (path : String) (before : List Segment) (position : Nat) :
    Prop where
  steps : ∃ after, Path.parse path = .ok (before ++ .index position :: after)
  through : (write (array []) before tree).failure = none
  unmade : ∀ node, read before tree = .ok node → node = null
  beyond : position ≠ 0

variable {path : String} {position : Nat}

theorem nodeAt_eq_null (unmade : ∀ node, read before tree = .ok node → node = null) :
    nodeAt before tree = null := by
  cases found : read before tree with
  | ok node => rw [nodeAt_of_read found, unmade node found]
  | error barrier =>
      rw [nodeAt, found]
      rfl

theorem MakesArray.breaksAt (makes : tree.MakesArray path before position) :
    nodeAt before tree = null ∧ tree.BreaksAt before (.index position) (.pastEnd position 0) := by
  have vacant := nodeAt_eq_null makes.unmade
  have through : (write null before tree).failure = none := by
    rw [failure_write before tree null (array [])]
    exact makes.through
  refine ⟨vacant, through, ?_⟩
  simp [vacant, opened, slot, makes.beyond]

theorem exists_path_of_prefix {path : String}
    (parsed : Path.parse path = .ok (before ++ segment :: after)) (inhabited : before ≠ []) :
    ∃ shorter, Path.parse shorter = .ok before := by
  have addressable := Path.addressable_of_parse parsed
  refine ⟨Path.render before, Path.parse_render ?_⟩
  match before, inhabited, addressable with
  | .field name :: later, _, ⟨isName, spellable⟩ =>
      exact ⟨isName, fun step member => spellable step (List.mem_append_left _ member)⟩

theorem MakesArray.set_eq (makes : tree.MakesArray path before position) (value : Tree) :
    (tree.set path value).failure = some (.indexOutOfBounds path position 0) ∧
      ∃ shorter, Path.parse shorter = .ok before ∧
        tree.set shorter (array []) = ⟨(tree.set path value).tree, none⟩ := by
  obtain ⟨after, parsed⟩ := makes.steps
  obtain ⟨vacant, breaks⟩ := makes.breaksAt
  have inhabited : before ≠ [] := by
    rintro rfl
    obtain ⟨name, rest, impossible⟩ := Path.head_of_parse parsed
    cases impossible
  obtain ⟨shorter, leads⟩ := exists_path_of_prefix parsed inhabited
  rw [set_parsed parsed, breaks.write_eq, vacant]
  refine ⟨rfl, shorter, leads, ?_⟩
  rw [set_parsed leads, makes.through]
  rfl

theorem MakesArray.changes (makes : tree.MakesArray path before position) (value : Tree) :
    (tree.set path value).tree ≠ tree := by
  intro same
  obtain ⟨-, shorter, leads, writes⟩ := makes.set_eq value
  rw [same, set_parsed leads] at writes
  have standing : read before tree = .ok (array []) := by
    have made := read_write makes.through
    rwa [congrArg Written.tree writes] at made
  cases makes.unmade _ standing

theorem exists_makesArray (parsed : Path.parse path = .ok (before ++ segment :: after))
    (breaks : tree.BreaksAt before segment obstacle)
    (changed : (write value (before ++ segment :: after) tree).tree ≠ tree) :
    ∃ position, tree.MakesArray path before position := by
  have unmade (node : Tree) (found : read before tree = .ok node) : node = null :=
    Decidable.byContradiction fun present => changed (breaks.left_of_read found present after value)
  have blocked := breaks.blocked
  rw [nodeAt_eq_null unmade] at blocked
  obtain ⟨position, beyond, rfl, -⟩ := index_of_slot_opened_null blocked
  refine ⟨position, ⟨after, parsed⟩, ?_, unmade, beyond⟩
  rw [failure_write before tree _ null]
  exact breaks.through

/-- A write that fails has left the tree as it was, unless it wanted a position beyond an array of
its own making: then it leaves what a write of that array, empty, would have. In either case the
same write fails again with the same error, and changes nothing more. -/
theorem failed_set_leaves (tree value : Tree) (path : String) (error : PathError)
    (failed : (tree.set path value).failure = some error) :
    let left := (tree.set path value).tree
    (left = tree ↔ ¬ ∃ before position, tree.MakesArray path before position) ∧
      (∀ before position, tree.MakesArray path before position →
        error = .indexOutOfBounds path position 0 ∧
          ∃ shorter, Path.parse shorter = .ok before ∧
            tree.set shorter (array []) = ⟨left, none⟩) ∧
      left.set path value = ⟨left, some error⟩ ∧
      ((∃ reason, error = .invalidPath path reason) ∨
        (∃ segment expected met, error = .notAContainer path segment expected met) ∨
        ∃ position length, error = .indexOutOfBounds path position length) := by
  intro left
  have made (before : List Segment) (position : Nat)
      (makes : tree.MakesArray path before position) :
      error = .indexOutOfBounds path position 0 ∧
        ∃ shorter, Path.parse shorter = .ok before ∧
          tree.set shorter (array []) = ⟨left, none⟩ := by
    obtain ⟨stopped, writes⟩ := makes.set_eq value
    rw [failed, Option.some.injEq] at stopped
    exact ⟨stopped, writes⟩
  cases parsed : Path.parse path with
  | error reason =>
      have same : left = tree := congrArg Written.tree (set_unparsed parsed tree value)
      refine ⟨⟨fun _ => ?_, fun _ => same⟩, made, ?_, failure_set_cases failed⟩
      · rintro ⟨before, position, makes⟩
        exact makes.changes value same
      · rw [set_unparsed parsed, Option.some.injEq] at failed
        rw [set_unparsed parsed, failed]
  | ok segments =>
      obtain ⟨obstacle, stopped, rfl⟩ := (failure_set_eq_some_iff parsed).mp failed
      obtain ⟨before, segment, after, rfl, breaks⟩ := exists_breaksAt stopped
      have written : left = (write value (before ++ segment :: after) tree).tree :=
        congrArg Written.tree (set_parsed parsed tree value)
      refine ⟨⟨?_, ?_⟩, made, ?_, failure_set_cases failed⟩
      · rintro same ⟨before, position, makes⟩
        exact makes.changes value same
      · intro unmade
        refine Decidable.byContradiction fun changed => ?_
        rw [written] at changed
        exact unmade ⟨before, exists_makesArray parsed breaks changed⟩
      · have again := breaks.write_again after value
        rw [← written] at again
        rw [set_parsed parsed, again]
        rfl

theorem leaves_array_in_new_item :
    let tree : Tree := object [("a", null)]
    let written := tree.set "a[0].l[1].x" (bool true)
    written.failure = some (.indexOutOfBounds "a[0].l[1].x" 1 0) ∧
      written.tree = object [("a", array [object [("l", array [])]])] ∧
      written.tree ≠ tree ∧
      written.tree.set "a[0].l[1].x" (bool true) = ⟨written.tree, written.failure⟩ ∧
      ∃ shorter, Path.parse shorter = .ok [.field "a", .index 0, .field "l"] ∧
        tree.set shorter (array []) = ⟨written.tree, none⟩ := by
  intro tree written
  have failed : written.failure = some (.indexOutOfBounds "a[0].l[1].x" 1 0) := by decide
  have makes : tree.MakesArray "a[0].l[1].x" [.field "a", .index 0, .field "l"] 1 :=
    ⟨⟨[.field "x"], rfl⟩, rfl, nofun, by decide⟩
  obtain ⟨unchanged, made, again, -⟩ := failed_set_leaves tree (bool true) "a[0].l[1].x"
    (.indexOutOfBounds "a[0].l[1].x" 1 0) failed
  obtain ⟨-, writes⟩ := made [.field "a", .index 0, .field "l"] 1 makes
  have changed : written.tree ≠ tree := fun same => unchanged.mp same ⟨_, 1, makes⟩
  rw [← failed] at again
  exact ⟨failed, rfl, changed, again, writes⟩

end Rollout.Tree
