import Mathlib.Data.List.Forall2
import Rollout.Config.Basic
import Rollout.Reference.Codec
import Rollout.Status
import Rollout.TraitType

/-! Layouts of records. A record may be laid out by name or as the list of all its columns, and so
may every record inside it. Whichever layout is chosen, the same value is read back; what is written
by name is one of them, so that writing and reading again changes nothing. -/

set_option autoImplicit false

namespace Rollout

namespace Record

variable {α : Type} {read : Tree → Option α} {write : α → Tree}

structure RoundTrips (read : Tree → Option α) (write : α → Tree) : Prop where
  read_write : ∀ value, read (write value) = some value
  /-- However the value was written when it was read, what is written for it now is settled. -/
  settled : ∀ tree value, read tree = some value →
    read (write value) = some value ∧ (read (write value)).map write = some (write value)

/-- A record with these columns keeps what it says, in whichever layout it is given. -/
structure Faithful (names : List String) (read : Tree → Option α) (write : α → Tree)
    (Layout : α → Tree → Prop) : Prop extends RoundTrips read write where
  /-- A list of all columns is read as the object that has them by name, whatever they hold. -/
  positional : ∀ items, items.length = names.length →
    read (.array items) = read (.object (names.zip items))
  written : ∀ value, Layout value (write value)
  read_layout : ∀ value tree, Layout value tree → read tree = some value

theorem RoundTrips.of_read_write (read_write : ∀ value, read (write value) = some value) :
    RoundTrips read write := by
  refine ⟨read_write, fun tree value _ => ?_⟩
  rw [read_write value]
  exact ⟨rfl, rfl⟩

theorem Faithful.of_layout {names : List String} {Layout : α → Tree → Prop}
    (positional : ∀ items, items.length = names.length →
      read (.array items) = read (.object (names.zip items)))
    (written : ∀ value, Layout value (write value))
    (read_layout : ∀ value tree, Layout value tree → read tree = some value) :
    Faithful names read write Layout :=
  { RoundTrips.of_read_write fun value => read_layout value (write value) (written value) with
    positional, written, read_layout }

theorem map_find?_zip {names : List String} {items : List Tree} (distinct : names.Nodup)
    (full : items.length = names.length) :
    names.map (fun name => Fields.find? name (names.zip items)) = items.map some := by
  induction names generalizing items with
  | nil =>
      obtain rfl := List.length_eq_zero_iff.mp full
      rfl
  | cons name rest ih =>
      obtain ⟨item, items, rfl⟩ := List.exists_cons_of_length_eq_add_one full
      obtain ⟨absent, distinct⟩ := List.nodup_cons.mp distinct
      have later : rest.map (fun other => Fields.find? other ((name, item) :: rest.zip items)) =
          rest.map (fun other => Fields.find? other (rest.zip items)) := by
        refine List.map_congr_left fun other member => ?_
        have differ : name ≠ other := fun same => absent (same ▸ member)
        exact Fields.find?_cons_of_ne differ item _
      rw [List.zip_cons_cons, List.map_cons, Fields.find?_cons_self, later,
        ih distinct (Nat.succ.inj full), List.map_cons]

theorem columns_zip {names : List String} {items : List Tree} (distinct : names.Nodup)
    (full : items.length = names.length) :
    columns names (.array items) = columns names (.object (names.zip items)) := by
  simp [columns, full, map_find?_zip distinct full]

/-- In a list of columns an absent text is null. -/
def cell : Option String → Tree
  | some text => .string text
  | none => .null

theorem optional_cell (text? : Option String) :
    optional Tree.text? (some (cell text?)) = some text? := by
  cases text? <;> rfl

theorem optional_map_string (text? : Option String) :
    optional Tree.text? (text?.map .string) = some text? := by
  cases text? <;> rfl

theorem list_array {Layout : α → Tree → Prop} {values : List α} {items : List Tree}
    (readable : ∀ value tree, Layout value tree → read tree = some value)
    (laid : List.Forall₂ Layout values items) : list read (.array items) = some values := by
  induction laid with
  | nil => rfl
  | cons head _ ih =>
      rw [list] at ih ⊢
      rw [List.mapM_cons, readable _ _ head, ih]
      rfl

end Record

namespace Reference

inductive Layout (reference : Reference) : Tree → Prop where
  | named : Layout reference reference.toTree
  | listed : Layout reference (.array [.string reference.apiVersion, .string reference.kind,
      .string reference.name, Record.cell reference.space?, Record.cell reference.uid?])

theorem columns_toTree (reference : Reference) : Record.columns columnNames reference.toTree =
    some [some (.string reference.apiVersion), some (.string reference.kind),
      some (.string reference.name), reference.space?.map .string, reference.uid?.map .string] := by
  obtain ⟨apiVersion, kind, name, space?, uid?⟩ := reference
  cases space? <;> cases uid? <;>
    simp [toTree, columnNames, Record.columns, Record.entry?, Fields.find?_nil,
      Fields.find?_cons_self, Fields.find?_cons_of_ne]

theorem ofTree?_layout {reference : Reference} {tree : Tree} (laid : reference.Layout tree) :
    ofTree? tree = some reference := by
  cases laid with
  | named =>
      rw [ofTree?, columns_toTree]
      simp [Record.required, Record.optional_map_string, Tree.text?]
  | listed =>
      simp [ofTree?, columnNames, Record.columns, Record.required, Record.optional_cell, Tree.text?]

theorem faithful : Record.Faithful columnNames ofTree? toTree Layout := by
  refine .of_layout (fun items full => ?_) (fun _ => .named) fun _ _ => ofTree?_layout
  rw [ofTree?, ofTree?, Record.columns_zip (by decide) full]

end Reference

namespace RecordedScope

inductive Layout (scope : RecordedScope) : Tree → Prop where
  | named {tree : Tree} : scope.reference.Layout tree → Layout scope (.object [("scopeRef", tree)])
  | listed {tree : Tree} : scope.reference.Layout tree → Layout scope (.array [tree])

theorem ofTree?_layout {scope : RecordedScope} {tree : Tree} (laid : scope.Layout tree) :
    ofTree? tree = some scope := by
  cases laid with
  | named laid =>
      simp [ofTree?, Record.columns, Fields.find?_cons_self, Record.required,
        Reference.ofTree?_layout laid]
  | listed laid =>
      simp [ofTree?, Record.columns, Record.required, Reference.ofTree?_layout laid]

theorem faithful : Record.Faithful ["scopeRef"] ofTree? toTree Layout := by
  refine .of_layout (fun items full => ?_) (fun _ => .named .named) fun _ _ => ofTree?_layout
  rw [ofTree?, ofTree?, Record.columns_zip (by decide) full]

end RecordedScope

namespace WorkloadStatus

inductive Layout (status : WorkloadStatus) : Tree → Prop where
  | named {tree : Tree} {items : List Tree} : status.reference.Layout tree →
      List.Forall₂ RecordedScope.Layout status.scopes items →
      Layout status (.object [("scopes", .array items), ("workloadRef", tree)])
  /-- Where there are no scopes, the name may be left out. -/
  | scopeless {tree : Tree} : status.reference.Layout tree → status.scopes = [] →
      Layout status (.object [("workloadRef", tree)])
  | listed {tree : Tree} {items : List Tree} : status.reference.Layout tree →
      List.Forall₂ RecordedScope.Layout status.scopes items →
      Layout status (.array [tree, .array items])

theorem ofTree?_layout {status : WorkloadStatus} {tree : Tree} (laid : status.Layout tree) :
    ofTree? tree = some status := by
  have scopes {items : List Tree} (laid : List.Forall₂ RecordedScope.Layout status.scopes items) :
      Record.list RecordedScope.ofTree? (.array items) = some status.scopes :=
    Record.list_array (fun _ _ => RecordedScope.ofTree?_layout) laid
  cases laid with
  | named reference laid =>
      simp [ofTree?, Record.columns, Fields.find?_cons_self, Fields.find?_cons_of_ne,
        Record.required, Record.defaulted, Reference.ofTree?_layout reference, scopes laid]
  | scopeless reference none =>
      simp [ofTree?, Record.columns, Fields.find?_nil, Fields.find?_cons_self,
        Fields.find?_cons_of_ne, Record.required, Record.defaulted,
        Reference.ofTree?_layout reference, ← none]
  | listed reference laid =>
      simp [ofTree?, Record.columns, Record.required, Record.defaulted,
        Reference.ofTree?_layout reference, scopes laid]

theorem layout_toTree (status : WorkloadStatus) : status.Layout status.toTree := by
  obtain ⟨reference, scopes⟩ := status
  cases scopes with
  | nil => exact .scopeless .named rfl
  | cons scope rest =>
      refine .named .named (List.forall₂_map_right_iff.mpr (List.forall₂_same.mpr ?_))
      exact fun _ _ => .named .named

theorem faithful : Record.Faithful ["workloadRef", "scopes"] ofTree? toTree Layout := by
  refine .of_layout (fun items full => ?_) layout_toTree fun _ _ => ofTree?_layout
  rw [ofTree?, ofTree?, Record.columns_zip (by decide) full]

end WorkloadStatus

namespace TraitType

inductive Layout (traitType : TraitType) : Tree → Prop where
  | named : Layout traitType traitType.toTree
  | listed : Layout traitType (.array [Record.cell traitType.workloadRefPath?])

theorem ofTree?_layout {traitType : TraitType} {tree : Tree} (laid : traitType.Layout tree) :
    ofTree? tree = some traitType := by
  obtain ⟨path?⟩ := traitType
  cases laid with
  | named =>
      cases path? <;>
        simp [ofTree?, toTree, Record.columns, Record.entry?, Fields.find?_nil,
          Fields.find?_cons_self, Record.optional, Tree.text?]
  | listed => simp [ofTree?, Record.columns, Record.optional_cell]

theorem faithful : Record.Faithful ["workloadRefPath"] ofTree? toTree Layout := by
  refine .of_layout (fun items full => ?_) (fun _ => .named) fun _ _ => ofTree?_layout
  rw [ofTree?, ofTree?, Record.columns_zip (by decide) full]

end TraitType

namespace Config

inductive Layout (config : Config) : Tree → Prop where
  | named : Layout config config.toTree
  | listed : Layout config (.array [.string config.workloadRefsPath,
      .bool config.dereferenceOrphanedWorkloads, .bool config.ignoreMissingScopeOnRemoval])

theorem ofTree?_layout {config : Config} {tree : Tree} (laid : config.Layout tree) :
    ofTree? tree = some config := by
  cases laid with
  | named =>
      simp [ofTree?, toTree, columnNames, Record.columns, Fields.find?_cons_self,
        Fields.find?_cons_of_ne, Record.defaulted, Tree.text?, Tree.bool?]
  | listed =>
      simp [ofTree?, columnNames, Record.columns, Record.defaulted, Tree.text?, Tree.bool?]

theorem faithful : Record.Faithful columnNames ofTree? toTree Layout := by
  refine .of_layout (fun items full => ?_) (fun _ => .named) fun _ _ => ofTree?_layout
  rw [ofTree?, ofTree?, Record.columns_zip (by decide) full]

end Config

/-- Records and resources are read back as they were written, and a record also as the list of its
columns, with the records inside it laid out in either way. -/
theorem records_read_back_from_layouts :
    Record.Faithful Reference.columnNames Reference.ofTree? Reference.toTree Reference.Layout ∧
      Record.Faithful ["scopeRef"] RecordedScope.ofTree? RecordedScope.toTree
        RecordedScope.Layout ∧
      Record.Faithful ["workloadRef", "scopes"] WorkloadStatus.ofTree? WorkloadStatus.toTree
        WorkloadStatus.Layout ∧
      Record.Faithful ["workloadRefPath"] TraitType.ofTree? TraitType.toTree TraitType.Layout ∧
      Record.Faithful Config.columnNames Config.ofTree? Config.toTree Config.Layout ∧
      Record.RoundTrips (fun tree => (Resource.ofTree tree).toOption) Resource.tree :=
  ⟨Reference.faithful, RecordedScope.faithful, WorkloadStatus.faithful, TraitType.faithful,
    Config.faithful, .of_read_write fun _ => rfl⟩

example :
    let web : Reference := { apiVersion := "v1", kind := "Web", name := "w", uid? := some "7" }
    let scope : Reference := { apiVersion := "v1", kind := "Scope", name := "s" }
    WorkloadStatus.ofTree? (.array [
      .array [.string "v1", .string "Web", .string "w", .null, .string "7"],
      .array [.object [("scopeRef",
          .array [.string "v1", .string "Scope", .string "s", .null, .null])],
        .array [scope.toTree]]]) =
      some { reference := web, scopes := [⟨scope⟩, ⟨scope⟩] } := by rfl

end Rollout
