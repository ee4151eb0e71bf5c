import Rollout.Proofs.Composition

/-! Where reads and writes stop. A read stops at the first step that its node has no child for.
If something else is in the way there, it stops a write just the same; if there is only nothing,
a write makes what it needs and goes on, and only a position beyond the end of an array can stop
it. -/

set_option autoImplicit false

namespace Rollout

namespace Obstacle

def isAbsence : Obstacle → Bool
  | .mismatch _ _ => false
  | _ => true

theorem isNotFound_at (obstacle : Obstacle) (path : String) :
    (obstacle.at path).isNotFound = obstacle.isAbsence := by
  cases obstacle <;> rfl

end Obstacle

namespace Segment

/-- What stops a step to a child that has yet to be made, in an array of this length or in an
object: a position that would leave a gap. -/
def overrun? (length : Nat) : Segment → Option Obstacle
  | .field _ => none
  | .index position => if position = length then none else some (.pastEnd position length)

theorem overrun?_eq_none_iff {length : Nat} {segment : Segment} :
    segment.overrun? length = none ↔ ∀ position, segment = .index position → position = length := by
  cases segment with
  | field name => exact ⟨fun _ => nofun, fun _ => rfl⟩
  | index position => simp [overrun?]

theorem pastEnd_of_overrun? {length : Nat} {segment : Segment} {obstacle : Obstacle}
    (stopped : segment.overrun? length = some obstacle) :
    ∃ position, obstacle = .pastEnd position length := by
  cases segment with
  | field name => cases stopped
  | index position =>
      rw [overrun?, Option.ite_none_left_eq_some] at stopped
      exact ⟨position, (Option.some.inj stopped.2).symm⟩

end Segment

namespace Tree

/-- The length of an array; any other node, null included, has no items. -/
def length (node : Tree) : Nat := (node.items?.getD []).length

/-- The first step beyond a node that a write cannot make; all nodes after the first are new and
empty. -/
def overrun? (node : Tree) (segment : Segment) (after : List Segment) : Option Obstacle :=
  (segment.overrun? node.length).or (after.findSome? (·.overrun? 0))

theorem overrun?_eq_none_iff {node : Tree} {segment : Segment} {after : List Segment} :
    node.overrun? segment after = none ↔
      (∀ position, segment = .index position → position = node.length) ∧
        ∀ position, .index position ∈ after → position = 0 := by
  rw [overrun?, Option.or_eq_none_iff, Segment.overrun?_eq_none_iff, List.findSome?_eq_none_iff]
  refine and_congr_right fun _ => ?_
  constructor
  · intro fits position member
    exact Segment.overrun?_eq_none_iff.mp (fits _ member) position rfl
  · intro first segment member
    refine Segment.overrun?_eq_none_iff.mpr ?_
    rintro position rfl
    exact first position member

theorem pastEnd_of_overrun? {node : Tree} {segment : Segment} {after : List Segment}
    {obstacle : Obstacle} (stopped : node.overrun? segment after = some obstacle) :
    ∃ position length, obstacle = .pastEnd position length := by
  rcases Option.or_eq_some_iff.mp stopped with here | ⟨-, later⟩
  · obtain ⟨position, same⟩ := Segment.pastEnd_of_overrun? here
    exact ⟨position, _, same⟩
  · obtain ⟨step, -, there⟩ := List.exists_of_findSome?_eq_some later
    obtain ⟨position, same⟩ := Segment.pastEnd_of_overrun? there
    exact ⟨position, 0, same⟩

theorem slot_of_child_error {node : Tree} {segment : Segment} {obstacle : Obstacle}
    (blocked : node.child segment = .error obstacle) :
    (node.opened segment).slot segment =
      if obstacle.isAbsence then
        match segment.overrun? node.length with
        | none => .ok .null
        | some overrun => .error overrun
      else .error obstacle := by
  cases segment with
  | field name =>
      cases node with
      | object fields =>
          simp only [child] at blocked
          cases found : Fields.find? name fields with
          | some there =>
              rw [found] at blocked
              cases blocked
          | none =>
              rw [found] at blocked
              cases blocked
              simp [opened, slot, found, Obstacle.isAbsence, Segment.overrun?]
      | _ =>
          cases blocked
          rfl
  | index position =>
      cases node with
      | array items =>
          simp only [child] at blocked
          cases found : items[position]? with
          | some there =>
              rw [found] at blocked
              cases blocked
          | none =>
              rw [found] at blocked
              cases blocked
              by_cases atEnd : position = items.length <;>
                simp [opened, slot, found, Obstacle.isAbsence, Segment.overrun?, length, items?,
                  atEnd]
      | null =>
          cases blocked
          by_cases atEnd : position = 0 <;>
            simp [opened, slot, Obstacle.isAbsence, Segment.overrun?, length, items?, atEnd]
      | _ =>
          cases blocked
          rfl

theorem failure_write_cons {node : Tree} {segment : Segment} {obstacle : Obstacle}
    (blocked : node.child segment = .error obstacle) (after : List Segment) (value : Tree) :
    (write value (segment :: after) node).failure =
      if obstacle.isAbsence then
        (segment.overrun? node.length).or (write value after null).failure
      else some obstacle := by
  have slot := slot_of_child_error blocked
  cases absent : obstacle.isAbsence with
  | false =>
      rw [absent] at slot
      rw [write_cons_error after value slot]
      rfl
  | true =>
      rw [absent] at slot
      cases overrun : segment.overrun? node.length with
      | none =>
          rw [overrun] at slot
          rw [write_cons after value slot]
          rfl
      | some obstacle =>
          rw [overrun] at slot
          rw [write_cons_error after value slot]
          rfl

theorem failure_write_null (segments : List Segment) (value : Tree) :
    (write value segments null).failure = segments.findSome? (·.overrun? 0) := by
  induction segments with
  | nil => rfl
  | cons segment rest ih =>
      have fresh : null.length = 0 := rfl
      rw [failure_write_cons (child_null segment), ih, fresh, List.findSome?_cons]
      cases segment.overrun? 0 <;> rfl

/-- The read comes as far as this node, which has no child for the segment. -/
structure StopsAt (tree : Tree) (before : List Segment) (node : Tree) (segment : Segment)
    (obstacle : Obstacle) : Prop where
  reached : read before tree = .ok node
  blocked : node.child segment = .error obstacle

theorem read_eq_error_iff {segments : List Segment} {tree : Tree} {obstacle : Obstacle} :
    read segments tree = .error obstacle ↔
      ∃ before segment after node, segments = before ++ segment :: after ∧
        tree.StopsAt before node segment obstacle := by
  induction segments generalizing tree with
  | nil =>
      constructor
      · exact nofun
      · rintro ⟨before, segment, after, node, split, -⟩
        cases before <;> cases split
  | cons first rest ih =>
      cases there : tree.child first with
      | error other =>
          rw [read_cons_error rest there, Except.error.injEq]
          constructor
          · rintro rfl
            exact ⟨[], first, rest, tree, rfl, rfl, there⟩
          · rintro ⟨before, segment, after, node, split, reached, blocked⟩
            cases before with
            | nil =>
                cases split
                cases reached
                rw [there] at blocked
                exact Except.error.inj blocked
            | cons head before =>
                cases split
                rw [read_cons_error before there] at reached
                cases reached
      | ok child =>
          rw [read_cons rest there, ih]
          constructor
          · rintro ⟨before, segment, after, node, rfl, reached, blocked⟩
            refine ⟨first :: before, segment, after, node, rfl, ?_, blocked⟩
            rw [read_cons before there, reached]
          · rintro ⟨before, segment, after, node, split, reached, blocked⟩
            cases before with
            | nil =>
                cases split
                cases reached
                rw [there] at blocked
                cases blocked
            | cons head before =>
                cases split
                rw [read_cons before there] at reached
                exact ⟨before, segment, after, node, rfl, reached, blocked⟩

theorem failure_write_append {before : List Segment} {tree node : Tree}
    (reached : read before tree = .ok node) (after : List Segment) (value : Tree) :
    (write value (before ++ after) tree).failure = (write value after node).failure := by
  have through : (write node before tree).failure = none := by rw [write_read reached]
  rw [write_append through, nodeAt_of_read reached]

/-- A write goes as far as a read does, and is then stopped by what is in the way or by the first
step that it cannot make. -/
theorem failure_write_of_stopsAt {tree node : Tree} {before : List Segment} {segment : Segment}
    {obstacle : Obstacle} (stops : tree.StopsAt before node segment obstacle)
    (after : List Segment) (value : Tree) :
    (write value (before ++ segment :: after) tree).failure =
      if obstacle.isAbsence then node.overrun? segment after else some obstacle := by
  rw [failure_write_append stops.reached, failure_write_cons stops.blocked, failure_write_null,
    overrun?]

theorem failure_write_of_read {segments : List Segment} {tree node : Tree}
    (found : read segments tree = .ok node) (value : Tree) :
    (write value segments tree).failure = none := by
  rw [failure_write segments tree value node, write_read found]

theorem failure_write_of_barrier {segments : List Segment} {tree : Tree} {obstacle : Obstacle}
    (found : read segments tree = .error obstacle) (present : obstacle.isAbsence = false)
    (value : Tree) : (write value segments tree).failure = some obstacle := by
  obtain ⟨before, segment, after, node, rfl, stops⟩ := read_eq_error_iff.mp found
  rw [failure_write_of_stopsAt stops, present]
  rfl

theorem failure_write_cases {segments : List Segment} {tree value : Tree} {obstacle : Obstacle}
    (stopped : (write value segments tree).failure = some obstacle) :
    (read segments tree = .error obstacle ∧ obstacle.isAbsence = false) ∨
      ∃ position length, obstacle = .pastEnd position length := by
  cases found : read segments tree with
  | ok node =>
      rw [failure_write_of_read found] at stopped
      cases stopped
  | error barrier =>
      obtain ⟨before, segment, after, node, rfl, stops⟩ := read_eq_error_iff.mp found
      rw [failure_write_of_stopsAt stops] at stopped
      cases absent : barrier.isAbsence with
      | false =>
          rw [absent] at stopped
          cases stopped
          exact .inl ⟨rfl, absent⟩
      | true =>
          rw [absent] at stopped
          exact .inr (pastEnd_of_overrun? stopped)

section Written

variable {tree value : Tree} {path : String} {segments : List Segment}

theorem get_eq_error_iff (parsed : Path.parse path = .ok segments) {error : PathError} :
    tree.get path = .error error ↔
      ∃ obstacle, read segments tree = .error obstacle ∧ obstacle.at path = error := by
  rw [get_parsed parsed]
  cases read segments tree with
  | ok node =>
      constructor
      · intro impossible
        cases impossible
      · rintro ⟨obstacle, impossible, -⟩
        cases impossible
  | error obstacle =>
      constructor
      · intro same
        exact ⟨obstacle, rfl, Except.error.inj same⟩
      · rintro ⟨other, same, rfl⟩
        cases same
        rfl

theorem failure_set_eq_some_iff (parsed : Path.parse path = .ok segments) {error : PathError} :
    (tree.set path value).failure = some error ↔
      ∃ obstacle, (write value segments tree).failure = some obstacle ∧
        obstacle.at path = error := by
  rw [set_parsed parsed]
  exact Option.map_eq_some_iff

theorem barrier_of_get {error : PathError} (blocked : tree.get path = .error error)
    (present : error.isNotFound = false) :
    (∃ reason, Path.parse path = .error reason ∧ error = .invalidPath path reason.message) ∨
      ∃ segment expected met, error = .notAContainer path segment expected met := by
  cases parsed : Path.parse path with
  | error reason =>
      rw [get_unparsed parsed, Except.error.injEq] at blocked
      exact .inl ⟨reason, rfl, blocked.symm⟩
  | ok segments =>
      obtain ⟨obstacle, -, rfl⟩ := (get_eq_error_iff parsed).mp blocked
      cases obstacle with
      | mismatch segment met => exact .inr ⟨_, _, _, rfl⟩
      | _ => cases present

/-- What stops a write stops a read as well, but for a position beyond the end of an array. -/
theorem get_eq_of_failure_set {error : PathError}
    (stopped : (tree.set path value).failure = some error) :
    (tree.get path = .error error ∧ error.isNotFound = false) ∨
      ∃ index length, error = .indexOutOfBounds path index length := by
  cases parsed : Path.parse path with
  | error reason =>
      rw [set_unparsed parsed, Option.some.injEq] at stopped
      rw [← stopped]
      exact .inl ⟨get_unparsed parsed tree, rfl⟩
  | ok segments =>
      obtain ⟨obstacle, blocked, rfl⟩ := (failure_set_eq_some_iff parsed).mp stopped
      rcases failure_write_cases blocked with ⟨found, present⟩ | ⟨position, length, rfl⟩
      · refine .inl ⟨(get_eq_error_iff parsed).mpr ⟨obstacle, found, rfl⟩, ?_⟩
        rw [Obstacle.isNotFound_at, present]
      · exact .inr ⟨position, length, rfl⟩

theorem failure_set_cases {error : PathError}
    (stopped : (tree.set path value).failure = some error) :
    (∃ reason, error = .invalidPath path reason) ∨
      (∃ segment expected met, error = .notAContainer path segment expected met) ∨
      ∃ index length, error = .indexOutOfBounds path index length := by
  rcases get_eq_of_failure_set stopped with ⟨blocked, present⟩ | beyond
  · rcases barrier_of_get blocked present with ⟨reason, -, malformed⟩ | barred
    · exact .inl ⟨_, malformed⟩
    · exact .inr (.inl barred)
  · exact .inr (.inr beyond)

theorem failure_set_eq_notAContainer_iff (parsed : Path.parse path = .ok segments)
    {its segment expected met : String} :
    (tree.set path value).failure = some (.notAContainer its segment expected met) ↔
      tree.get path = .error (.notAContainer its segment expected met) := by
  rw [failure_set_eq_some_iff parsed, get_eq_error_iff parsed]
  constructor
  · rintro ⟨obstacle, stopped, same⟩
    rcases failure_write_cases stopped with ⟨found, -⟩ | ⟨position, length, rfl⟩
    · exact ⟨obstacle, found, same⟩
    · cases same
  · rintro ⟨obstacle, found, same⟩
    cases obstacle with
    | mismatch step shape => exact ⟨_, failure_write_of_barrier found rfl value, same⟩
    | _ => cases same

theorem failure_set_of_stopsAt {before after : List Segment} {node : Tree} {segment : Segment}
    {obstacle : Obstacle} (parsed : Path.parse path = .ok (before ++ segment :: after))
    (stops : tree.StopsAt before node segment obstacle) (absent : obstacle.isAbsence = true) :
    (tree.set path value).failure = (node.overrun? segment after).map (·.at path) := by
  simp only [set_parsed parsed, failure_write_of_stopsAt stops, absent, if_true]

end Written

/-- A write is refused for a malformed path or for what is in the way just where a read is, and
goes on where a read finds nothing, unless a position is beyond the end of the array it is in: of
that which the read came to, or of a new one. So it succeeds wherever the read does. -/
theorem set_stops_as_get_does (tree value : Tree) (path : String) :
    let found := tree.get path
    let failure := (tree.set path value).failure
    (∀ its reason,
      failure = some (.invalidPath its reason) ↔ found = .error (.invalidPath its reason)) ∧
    (∀ its segment expected met,
      failure = some (.notAContainer its segment expected met) ↔
        found = .error (.notAContainer its segment expected met)) ∧
    (∀ node, found = .ok node → failure = none) ∧
    (∀ error, found = .error error → error.isNotFound = true →
      ∃ before segment after node obstacle,
        Path.parse path = .ok (before ++ segment :: after) ∧
        tree.StopsAt before node segment obstacle ∧ error = obstacle.at path ∧
        (failure = none ↔ (∀ position, segment = .index position → position = node.length) ∧
          ∀ position, .index position ∈ after → position = 0) ∧
        failure = (node.overrun? segment after).map (·.at path)) ∧
    ∀ error, failure = some error →
      (∃ reason, error = .invalidPath path reason) ∨
      (∃ segment expected met, error = .notAContainer path segment expected met) ∨
      ∃ index length, error = .indexOutOfBounds path index length := by
  intro found failure
  cases parsed : Path.parse path with
  | error reason =>
      have read : found = .error (.invalidPath path reason.message) := get_unparsed parsed tree
      have written : failure = some (.invalidPath path reason.message) :=
        congrArg Written.failure (set_unparsed parsed tree value)
      rw [read, written]
      simp [PathError.isNotFound]
  | ok segments =>
      refine ⟨?_, fun _ _ _ _ => failure_set_eq_notAContainer_iff parsed, ?_, ?_,
        fun _ => failure_set_cases⟩
      · intro its reason
        rw [failure_set_eq_some_iff parsed, get_eq_error_iff parsed]
        constructor
        · rintro ⟨obstacle, -, impossible⟩
          cases obstacle <;> cases impossible
        · rintro ⟨obstacle, -, impossible⟩
          cases obstacle <;> cases impossible
      · intro node there
        simp only [failure, Tree.failure_set tree path value node, set_get there]
      · intro error blocked absent
        obtain ⟨obstacle, stopped, rfl⟩ := (get_eq_error_iff parsed).mp blocked
        obtain ⟨before, segment, after, node, rfl, stops⟩ := read_eq_error_iff.mp stopped
        rw [Obstacle.isNotFound_at] at absent
        have overrun : failure = (node.overrun? segment after).map (·.at path) :=
          failure_set_of_stopsAt parsed stops absent
        refine ⟨before, segment, after, node, obstacle, rfl, stops, rfl, ?_, overrun⟩
        rw [overrun, Option.map_eq_none_iff, overrun?_eq_none_iff]

example : ((object [("a", null)]).set "a[18446744073709551615]" null).failure =
    some (.indexOutOfBounds "a[18446744073709551615]" 18446744073709551615 0) := by decide

end Tree

end Rollout
