import Rollout.Proofs.Grammar
import Rollout.Proofs.Lens

/-! Paths one after another. A path that goes on after a dot reads and writes as its second part
does in what stands at its first; where nothing stands there yet, the second part is written into
null. -/

set_option autoImplicit false

namespace Rollout

namespace Path

variable {first second : List Char} {steps others : List Segment}

theorem Items.append_dot (items : Items first steps) (named : Named second others) :
    Items (first ++ '.' :: second) (steps ++ others) := by
  induction items with
  | nothing =>
      obtain ⟨name, rest, later, rfl, isName, items, rfl⟩ := named
      exact .dotted isName items
  | dotted isName items ih =>
      rw [List.cons_append, List.append_assoc]
      exact .dotted isName ih
  | bracketed held items ih =>
      rw [List.cons_append, List.append_assoc]
      exact .bracketed held ih

theorem Named.append_dot (named : Named first steps) (named' : Named second others) :
    Named (first ++ '.' :: second) (steps ++ others) := by
  obtain ⟨name, rest, later, rfl, isName, items, rfl⟩ := named
  exact ⟨name, rest ++ '.' :: second, later ++ others, List.append_assoc _ _ _, isName,
    items.append_dot named', rfl⟩

theorem parse_append_dot {first second : String} (parsed : parse first = .ok steps)
    (parsed' : parse second = .ok others) :
    parse (first ++ "." ++ second) = .ok (steps ++ others) := by
  have named : Named first.toList steps := parse_eq_ok_iff.mp parsed
  have named' : Named second.toList others := parse_eq_ok_iff.mp parsed'
  have characters : (first ++ "." ++ second).toList = first.toList ++ '.' :: second.toList := by
    simp
  rw [parse_eq_ok_iff, Denotes, characters]
  exact named.append_dot named'

end Path

namespace Tree

/-- What stands at the steps, as a write would meet it: null, if nothing can be read there. -/
def nodeAt (segments : List Segment) (tree : Tree) : Tree :=
  (read segments tree).toOption.getD null

theorem nodeAt_null (segments : List Segment) : nodeAt segments null = null := by
  cases segments with
  | nil => rfl
  | cons segment rest => rw [nodeAt, read_cons_error rest (child_null segment)]; rfl

theorem nodeAt_cons {node below : Tree} {segment : Segment} (rest : List Segment)
    (found : (node.opened segment).slot segment = .ok below) :
    nodeAt (segment :: rest) node = nodeAt rest below := by
  rcases child_of_slot found with there | ⟨⟨obstacle, absent⟩, rfl⟩
  · rw [nodeAt, read_cons rest there, nodeAt]
  · rw [nodeAt_null, nodeAt, read_cons_error rest absent]
    rfl

theorem nodeAt_of_read {segments : List Segment} {tree node : Tree}
    (found : read segments tree = .ok node) : nodeAt segments tree = node := by
  rw [nodeAt, found]
  rfl

theorem read_append (before after : List Segment) (tree : Tree) :
    read (before ++ after) tree = (read before tree).bind (read after) := by
  induction before generalizing tree with
  | nil => rfl
  | cons segment rest ih =>
      cases there : tree.child segment with
      | error obstacle =>
          rw [List.cons_append, read_cons_error _ there, read_cons_error _ there]
          rfl
      | ok child =>
          rw [List.cons_append, read_cons _ there, read_cons _ there]
          exact ih child

/-- Once a write has come through its first steps, the rest of it is a write into what stands
there, which is then put back. -/
theorem write_append {before : List Segment} {tree first : Tree}
    (succeeded : (write first before tree).failure = none) (after : List Segment) (value : Tree) :
    let inner := write value after (nodeAt before tree)
    write value (before ++ after) tree = ⟨(write inner.tree before tree).tree, inner.failure⟩ := by
  induction before generalizing tree with
  | nil => rfl
  | cons segment rest ih =>
      cases found : (tree.opened segment).slot segment with
      | error obstacle =>
          rw [write_cons_error rest first found] at succeeded
          cases succeeded
      | ok below =>
          rw [write_cons rest first found] at succeeded
          rw [List.cons_append, write_cons _ value found, nodeAt_cons rest found, ih succeeded]
          simp only [write_cons rest _ found]

theorem write_append_of_failure {before : List Segment} {tree first : Tree} {obstacle : Obstacle}
    (stopped : (write first before tree).failure = some obstacle) (after : List Segment)
    (value : Tree) : write value (before ++ after) tree = write first before tree := by
  induction before generalizing tree with
  | nil => cases stopped
  | cons segment rest ih =>
      cases found : (tree.opened segment).slot segment with
      | error barrier =>
          rw [List.cons_append, write_cons_error _ value found, write_cons_error rest first found]
      | ok below =>
          rw [write_cons rest first found] at stopped
          rw [List.cons_append, write_cons _ value found, write_cons rest first found, ih stopped]

/-- Two paths joined by a dot are a path, whose steps are those of both. It reads what the second
path reads in what the first one reads. A write at it is a write at the first path of what a write
at the second makes of that node, or of null where there is none: it succeeds if both do, and
leaves the same tree in any case. -/
theorem composes_at_dot (first second : String) (steps others : List Segment)
    (parsed : Path.parse first = .ok steps) (parsed' : Path.parse second = .ok others) :
    let joined := first ++ "." ++ second
    Path.parse joined = .ok (steps ++ others) ∧
      ∀ tree : Tree,
        (∀ found, tree.get joined = .ok found ↔
          ∃ middle, tree.get first = .ok middle ∧ middle.get second = .ok found) ∧
        ∀ value,
          let inner := ((tree.get first).toOption.getD null).set second value
          let outer := tree.set first inner.tree
          ((tree.set joined value).failure = none ↔ inner.failure = none ∧ outer.failure = none) ∧
            (tree.set joined value).tree = outer.tree := by
  intro joined
  have whole : Path.parse joined = .ok (steps ++ others) := Path.parse_append_dot parsed parsed'
  refine ⟨whole, fun tree => ⟨fun found => ?_, fun value => ?_⟩⟩
  · simp only [get_eq_ok_iff, whole, parsed, parsed', Except.ok.injEq, exists_eq_left', read_append]
    cases read steps tree with
    | error obstacle => simp [Except.bind]
    | ok middle => simp [Except.bind]
  · have middle : (tree.get first).toOption.getD null = nodeAt steps tree := by
      rw [get_parsed parsed, nodeAt]
      cases read steps tree <;> rfl
    simp only [middle, set_parsed whole, set_parsed parsed, set_parsed parsed',
      Option.map_eq_none_iff]
    cases outcome : (write (write value others (nodeAt steps tree)).tree steps tree).failure with
    | none => simp only [write_append outcome, and_true, and_self]
    | some obstacle => simp [write_append_of_failure outcome, outcome]

theorem writes_beyond_last_item :
    let tree : Tree := object [("l", array [null])]
    let joined := "l[1]" ++ "." ++ "a['.']"
    let written := tree.set joined (bool true)
    Path.parse joined = .ok [.field "l", .index 1, .field "a", .field "."] ∧
      written.failure = none ∧
      written.tree =
        object [("l", array [null, object [("a", object [(".", bool true)])]])] := by
  intro tree joined written
  obtain ⟨parsed, whole⟩ :=
    composes_at_dot "l[1]" "a['.']" [.field "l", .index 1] [.field "a", .field "."] rfl rfl
  obtain ⟨-, writes⟩ := whole tree
  obtain ⟨succeeds, leaves⟩ := writes (bool true)
  exact ⟨parsed, succeeds.mpr ⟨by decide, by decide⟩, leaves.trans (by decide)⟩

end Tree

end Rollout
