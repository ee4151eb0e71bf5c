import Rollout.Resource

/-! Laws of reading and writing. What was written is read back, a second write hides the first,
and writing back what was read changes nothing. Whether a write succeeds is decided by the tree
and the path, never by the value that is written. -/

set_option autoImplicit false

namespace Rollout

namespace Fields

theorem replace_replace (name : String) (first second : Tree) (fields : Fields) :
    replace name second (replace name first fields) = replace name second fields := by
  induction fields with
  | nil => rfl
  | cons entry rest ih =>
      by_cases same : entry.1 = name
      · simp only [replace, same, if_true]
      · simp only [replace, same, if_false, ih]

theorem replace_place {name : String} {fields : Fields} (absent : find? name fields = none)
    (first second : Tree) :
    replace name second (place name first fields) = place name second fields := by
  induction fields with
  | nil => simp only [place, replace, if_true]
  | cons entry rest ih =>
      have differ : entry.1 ≠ name := by
        intro same
        simp [find?, same] at absent
      have later : find? name rest = none := by simpa [find?, differ] using absent
      by_cases before : name < entry.1
      · simp only [place, before, replace, if_true]
      · simp only [place, before, replace, differ, if_false, ih later]

@[simp] theorem set_set (name : String) (first second : Tree) (fields : Fields) :
    set name second (set name first fields) = set name second fields := by
  have present : (find? name (set name first fields)).isSome := by simp
  rw [set, if_pos present]
  unfold set
  cases found : find? name fields with
  | none =>
      simp only [Option.isSome_none, Bool.false_eq_true, if_false]
      exact replace_place found first second
  | some old =>
      simp only [Option.isSome_some, if_true]
      exact replace_replace name first second fields

end Fields

namespace Tree

theorem slot_cases {node below : Tree} {segment : Segment} (found : node.slot segment = .ok below) :
    (∃ name fields, segment = .field name ∧ node = .object fields ∧
        below = (Fields.find? name fields).getD .null) ∨
      (∃ position items, segment = .index position ∧ node = .array items ∧
        items[position]? = some below) ∨
      (∃ items, segment = .index items.length ∧ node = .array items ∧ below = .null) := by
  cases segment with
  | field name =>
      cases node with
      | object fields => exact .inl ⟨name, fields, rfl, rfl, by simpa [slot] using found.symm⟩
      | _ => simp [slot] at found
  | index position =>
      cases node with
      | array items =>
          simp only [slot] at found
          cases there : items[position]? with
          | some child =>
              rw [there] at found
              cases found
              exact .inr (.inl ⟨position, items, rfl, rfl, there⟩)
          | none =>
              rw [there] at found
              by_cases atEnd : position = items.length
              · subst atEnd
                simp only [if_true, Except.ok.injEq] at found
                exact .inr (.inr ⟨items, rfl, rfl, found.symm⟩)
              · simp [atEnd] at found
      | _ => simp [slot] at found

theorem child_place {node below : Tree} {segment : Segment} (found : node.slot segment = .ok below)
    (child : Tree) : (node.place segment child).child segment = .ok child := by
  rcases slot_cases found with ⟨name, fields, rfl, rfl, -⟩ | ⟨position, items, rfl, rfl, there⟩ |
    ⟨items, rfl, rfl, -⟩
  · simp only [place, Tree.child, Fields.find?_set_self]
  · obtain ⟨within, -⟩ := List.getElem?_eq_some_iff.mp there
    simp only [place, within, if_true, Tree.child, List.getElem?_set_self within]
  · simp [place, Tree.child]

theorem opened_place {node below : Tree} {segment : Segment}
    (found : node.slot segment = .ok below) (child : Tree) :
    (node.place segment child).opened segment = node.place segment child := by
  rcases slot_cases found with ⟨name, fields, rfl, rfl, -⟩ | ⟨position, items, rfl, rfl, there⟩ |
    ⟨items, rfl, rfl, -⟩
  · rfl
  · obtain ⟨within, -⟩ := List.getElem?_eq_some_iff.mp there
    simp only [place, within, if_true, opened]
  · simp [place, opened]

theorem place_place {node below : Tree} {segment : Segment}
    (found : node.slot segment = .ok below) (first second : Tree) :
    (node.place segment first).place segment second = node.place segment second := by
  rcases slot_cases found with ⟨name, fields, rfl, rfl, -⟩ | ⟨position, items, rfl, rfl, there⟩ |
    ⟨items, rfl, rfl, -⟩
  · simp only [place, Fields.set_set]
  · obtain ⟨within, -⟩ := List.getElem?_eq_some_iff.mp there
    simp only [place, within, if_true, List.length_set, List.set_set]
  · simp [place]

theorem child_cases {node below : Tree} {segment : Segment}
    (found : node.child segment = .ok below) :
    node.opened segment = node ∧ node.slot segment = .ok below ∧
      node.place segment below = node := by
  cases segment with
  | field name =>
      cases node with
      | object fields =>
          simp only [Tree.child] at found
          cases there : Fields.find? name fields with
          | none =>
              rw [there] at found
              cases found
          | some child =>
              rw [there] at found
              cases found
              refine ⟨rfl, ?_, ?_⟩
              · simp only [slot, there, Option.getD_some]
              · simp only [place, Fields.set_find? there]
      | _ => simp [Tree.child] at found
  | index position =>
      cases node with
      | array items =>
          simp only [Tree.child] at found
          cases there : items[position]? with
          | none =>
              rw [there] at found
              cases found
          | some child =>
              rw [there] at found
              cases found
              obtain ⟨within, same⟩ := List.getElem?_eq_some_iff.mp there
              refine ⟨rfl, ?_, ?_⟩
              · simp only [slot, there]
              · simp only [place, within, if_true, ← same, List.set_getElem_self]
      | _ => simp [Tree.child] at found

theorem child_null (segment : Segment) : null.child segment = .error (.missing segment) := by
  cases segment <;> rfl

theorem child_of_slot {node below : Tree} {segment : Segment}
    (found : (node.opened segment).slot segment = .ok below) :
    node.child segment = .ok below ∨
      ((∃ obstacle, node.child segment = .error obstacle) ∧ below = .null) := by
  cases there : node.child segment with
  | ok child =>
      obtain ⟨opened, slot, -⟩ := child_cases there
      rw [opened, slot] at found
      cases found
      exact .inl rfl
  | error obstacle =>
      refine .inr ⟨⟨obstacle, rfl⟩, ?_⟩
      rcases slot_cases found with ⟨name, fields, rfl, same, rfl⟩ |
        ⟨position, items, rfl, same, present⟩ | ⟨items, rfl, same, rfl⟩
      · cases node with
        | object others =>
            cases same
            cases present : Fields.find? name fields with
            | none => rfl
            | some child => simp [Tree.child, present] at there
        | null =>
            cases same
            rfl
        | _ => cases same
      · cases node with
        | array others =>
            cases same
            simp [Tree.child, present] at there
        | null =>
            cases same
            simp at present
        | _ => cases same
      · rfl

theorem write_cons {node below : Tree} {segment : Segment} (rest : List Segment) (value : Tree)
    (found : (node.opened segment).slot segment = .ok below) :
    write value (segment :: rest) node =
      ⟨(node.opened segment).place segment (write value rest below).tree,
        (write value rest below).failure⟩ := by
  simp only [write, found]

theorem write_cons_error {node : Tree} {segment : Segment} {obstacle : Obstacle}
    (rest : List Segment) (value : Tree)
    (blocked : (node.opened segment).slot segment = .error obstacle) :
    write value (segment :: rest) node = ⟨node.opened segment, some obstacle⟩ := by
  simp only [write, blocked]

theorem read_cons {node child : Tree} {segment : Segment} (rest : List Segment)
    (found : node.child segment = .ok child) : read (segment :: rest) node = read rest child := by
  simp only [read, found]
  rfl

theorem read_cons_error {node : Tree} {segment : Segment} {obstacle : Obstacle}
    (rest : List Segment) (blocked : node.child segment = .error obstacle) :
    read (segment :: rest) node = .error obstacle := by
  simp only [read, blocked]
  rfl

theorem read_write {segments : List Segment} {node value : Tree}
    (succeeded : (write value segments node).failure = none) :
    read segments (write value segments node).tree = .ok value := by
  induction segments generalizing node with
  | nil => rfl
  | cons segment rest ih =>
      cases found : (node.opened segment).slot segment with
      | error obstacle =>
          rw [write_cons_error rest value found] at succeeded
          cases succeeded
      | ok below =>
          rw [write_cons rest value found] at succeeded ⊢
          rw [read_cons rest (child_place found _)]
          exact ih succeeded

theorem write_write {segments : List Segment} {node first : Tree}
    (succeeded : (write first segments node).failure = none) (second : Tree) :
    write second segments (write first segments node).tree = write second segments node := by
  induction segments generalizing node with
  | nil => rfl
  | cons segment rest ih =>
      cases found : (node.opened segment).slot segment with
      | error obstacle =>
          rw [write_cons_error rest first found] at succeeded
          cases succeeded
      | ok below =>
          rw [write_cons rest first found] at succeeded ⊢
          have opened := opened_place found (write first rest below).tree
          have again : (((node.opened segment).place segment
              (write first rest below).tree).opened segment).slot segment =
              .ok (write first rest below).tree := by
            rw [opened]
            exact (child_cases (child_place found _)).2.1
          rw [write_cons rest second again, write_cons rest second found, opened,
            place_place found, ih succeeded]

theorem write_read {segments : List Segment} {node value : Tree}
    (found : read segments node = .ok value) : write value segments node = ⟨node, none⟩ := by
  induction segments generalizing node with
  | nil =>
      cases found
      rfl
  | cons segment rest ih =>
      cases there : node.child segment with
      | error obstacle =>
          rw [read_cons_error rest there] at found
          cases found
      | ok child =>
          rw [read_cons rest there] at found
          obtain ⟨opened, slot, back⟩ := child_cases there
          rw [write_cons rest value (opened ▸ slot), opened, ih found, back]

theorem failure_write (segments : List Segment) (node first second : Tree) :
    (write first segments node).failure = (write second segments node).failure := by
  induction segments generalizing node with
  | nil => rfl
  | cons segment rest ih =>
      cases found : (node.opened segment).slot segment with
      | error obstacle =>
          rw [write_cons_error rest first found, write_cons_error rest second found]
      | ok below =>
          rw [write_cons rest first found, write_cons rest second found]
          exact ih below

variable {tree : Tree} {path : String}

theorem get_parsed {segments : List Segment} (parsed : Path.parse path = .ok segments)
    (tree : Tree) : tree.get path = (read segments tree).mapError (·.at path) := by
  simp only [get, parsed]

theorem set_parsed {segments : List Segment} (parsed : Path.parse path = .ok segments)
    (tree value : Tree) :
    tree.set path value =
      ⟨(write value segments tree).tree, (write value segments tree).failure.map (·.at path)⟩ := by
  simp only [set, parsed]

theorem get_unparsed {reason : Malformed} (unparsed : Path.parse path = .error reason)
    (tree : Tree) : tree.get path = .error (.invalidPath path reason.message) := by
  simp only [get, unparsed]

theorem set_unparsed {reason : Malformed} (unparsed : Path.parse path = .error reason)
    (tree value : Tree) :
    tree.set path value = ⟨tree, some (.invalidPath path reason.message)⟩ := by
  simp only [set, unparsed]

theorem set_cases {value : Tree} (succeeded : (tree.set path value).failure = none) :
    ∃ segments, Path.parse path = .ok segments ∧ (write value segments tree).failure = none := by
  cases parsed : Path.parse path with
  | error reason =>
      rw [set_unparsed parsed] at succeeded
      cases succeeded
  | ok segments =>
      rw [set_parsed parsed] at succeeded
      exact ⟨segments, rfl, by simpa using succeeded⟩

theorem get_eq_ok_iff {value : Tree} : tree.get path = .ok value ↔
    ∃ segments, Path.parse path = .ok segments ∧ read segments tree = .ok value := by
  cases parsed : Path.parse path with
  | error reason => simp [get, parsed]
  | ok segments =>
      rw [get_parsed parsed]
      simp only [Except.ok.injEq, exists_eq_left']
      cases read segments tree with
      | error obstacle => exact ⟨nofun, nofun⟩
      | ok node =>
          change Except.ok node = Except.ok value ↔ _
          simp only [Except.ok.injEq]

theorem get_set {value : Tree} (succeeded : (tree.set path value).failure = none) :
    (tree.set path value).tree.get path = .ok value := by
  obtain ⟨segments, parsed, written⟩ := set_cases succeeded
  rw [set_parsed parsed]
  exact get_eq_ok_iff.mpr ⟨segments, parsed, read_write written⟩

theorem set_set {first : Tree} (succeeded : (tree.set path first).failure = none)
    (second : Tree) : (tree.set path first).tree.set path second = tree.set path second := by
  obtain ⟨segments, parsed, written⟩ := set_cases succeeded
  simp only [set_parsed parsed, write_write written]

theorem set_get {value : Tree} (found : tree.get path = .ok value) :
    tree.set path value = ⟨tree, none⟩ := by
  obtain ⟨segments, parsed, there⟩ := get_eq_ok_iff.mp found
  rw [set_parsed parsed, write_read there]
  rfl

theorem failure_set (tree : Tree) (path : String) (first second : Tree) :
    (tree.set path first).failure = (tree.set path second).failure := by
  simp only [set]
  cases Path.parse path with
  | error reason => rfl
  | ok segments => exact congrArg (Option.map _) (failure_write segments _ first second)

/-- What may be asked of reading and writing one place, where either may fail: what was written is
read, writing what is there succeeds and changes nothing, and after one write another does what it
would have done without. -/
structure LawfulPlace (get : Tree → Except PathError Tree)
    (set : Tree → Tree → Written PathError) : Prop where
  get_set : ∀ tree value, (set tree value).failure = none → get (set tree value).tree = .ok value
  set_get : ∀ tree value, get tree = .ok value → set tree value = ⟨tree, none⟩
  set_set : ∀ tree first second, (set tree first).failure = none →
    (set (set tree first).tree second).failure = none ∧
      (set (set tree first).tree second).tree = (set tree second).tree

/-- Every written path is such a place, a malformed one because nothing succeeds there. -/
theorem lawful_at_path (path : String) :
    LawfulPlace (fun tree => tree.get path) fun tree value => tree.set path value where
  get_set _ _ succeeded := get_set succeeded
  set_get _ _ found := set_get found
  set_set tree first second succeeded := by
    have hidden := set_set succeeded second
    refine ⟨?_, congrArg Written.tree hidden⟩
    rw [hidden, failure_set tree path second first, succeeded]

example : ((object [("a", null)]).set "a[0]['']" (bool true)).failure = none := by decide

end Tree

namespace Resource

variable {resource : Resource} {path : String}

theorem set_cases {value : Tree} (succeeded : (resource.set path value).failure = none) :
    ∃ segments, Path.parse path = .ok segments ∧
      (Tree.write value segments resource.tree).failure = none ∧
      (resource.set path value).resource.tree = (Tree.write value segments resource.tree).tree := by
  obtain ⟨segments, parsed, written⟩ := Tree.set_cases succeeded
  rw [tree_set, Tree.set_parsed parsed]
  exact ⟨segments, parsed, written, rfl⟩

theorem get_set {value : Tree} (succeeded : (resource.set path value).failure = none) :
    (resource.set path value).resource.get path = .ok value := by
  rw [get, tree_set]
  exact Tree.get_set succeeded

theorem set_set {first : Tree} (succeeded : (resource.set path first).failure = none)
    (second : Tree) :
    (resource.set path first).resource.set path second = resource.set path second := by
  rw [set, tree_set, Tree.set_set succeeded]
  rfl

theorem set_get {value : Tree} (found : resource.get path = .ok value) :
    resource.set path value = ⟨resource, none⟩ := by
  rw [set, Tree.set_get found]
  rfl

theorem failure_set (resource : Resource) (path : String) (first second : Tree) :
    (resource.set path first).failure = (resource.set path second).failure :=
  Tree.failure_set resource.tree path first second

end Resource

end Rollout
