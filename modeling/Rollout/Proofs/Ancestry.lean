import Mathlib.Data.List.Basic
import Mathlib.Logic.Relation
import Rollout.Context

/-! Histories of contexts: which contexts are kin, through which of them a cancel was fired, and
which deadlines lie on the lineage of each. All this is told by what was done alone, without the
contexts themselves. -/

set_option autoImplicit false

namespace Rollout

/-- What was done with contexts and at which moments, the latest first. -/
abbrev ContextHistory := List (Nat × ContextAction)

namespace ContextHistory

def contexts : ContextHistory → Nat
  | [] => 0
  | (_, .create _) :: past | (_, .clone _) :: past | (_, .fresh _) :: past => contexts past + 1
  | _ :: past => contexts past

def handles : ContextHistory → Nat
  | [] => 0
  | (_, .handle _) :: past | (_, .copy _) :: past => handles past + 1
  | _ :: past => handles past

def Admits (past : ContextHistory) : ContextAction → Prop
  | .create _ => True
  | .clone context | .fresh context | .handle context | .cancel context | .deadline context _
  | .timeout context _ => context < contexts past
  | .copy handle | .fire handle => handle < handles past

def Sound : ContextHistory → Prop
  | [] => True
  | (_, action) :: past => Admits past action ∧ Sound past

instance (past : ContextHistory) (action : ContextAction) : Decidable (Admits past action) := by
  cases action <;> unfold Admits <;> infer_instance

instance decidableSound : (history : ContextHistory) → Decidable (Sound history)
  | [] => .isTrue trivial
  | (_, _) :: past => @instDecidableAnd _ _ _ (decidableSound past)

inductive ClonedFrom : ContextHistory → Nat → Nat → Prop where
  | clone (now origin : Nat) (past : ContextHistory) :
      ClonedFrom ((now, .clone origin) :: past) origin (contexts past)
  | earlier {past : ContextHistory} {origin copy : Nat} (step : Nat × ContextAction) :
      ClonedFrom past origin copy → ClonedFrom (step :: past) origin copy

/-- Contexts are kin if cloning connects them, in whatever directions and over however many
generations. -/
def Kin (history : ContextHistory) : Nat → Nat → Prop := Relation.EqvGen (ClonedFrom history)

/-- The handle was taken from the context, or is a copy of one that was. -/
inductive TakenFrom : ContextHistory → (handle context : Nat) → Prop where
  | handle (now context : Nat) (past : ContextHistory) :
      TakenFrom ((now, .handle context) :: past) (handles past) context
  | copy {past : ContextHistory} {handle context : Nat} (now : Nat) :
      TakenFrom past handle context → TakenFrom ((now, .copy handle) :: past) (handles past) context
  | earlier {past : ContextHistory} {handle context : Nat} (step : Nat × ContextAction) :
      TakenFrom past handle context → TakenFrom (step :: past) handle context

/-- A cancel was fired by the context itself or by a handle that was taken from it. -/
inductive CancelledThrough : ContextHistory → Nat → Prop where
  | cancel (now context : Nat) (past : ContextHistory) :
      CancelledThrough ((now, .cancel context) :: past) context
  | fire {past : ContextHistory} {handle context : Nat} (now : Nat) :
      TakenFrom past handle context → CancelledThrough ((now, .fire handle) :: past) context
  | earlier {past : ContextHistory} {context : Nat} (step : Nat × ContextAction) :
      CancelledThrough past context → CancelledThrough (step :: past) context

def Cancelled (history : ContextHistory) (context : Nat) : Prop :=
  ∃ kin, Kin history context kin ∧ CancelledThrough history kin

def given? (context : Nat) : Nat × ContextAction → Option Nat
  | (_, .deadline limited moment) => if limited = context then some moment else none
  | (now, .timeout limited duration) => if limited = context then some (now + duration) else none
  | _ => none

/-- All deadlines on the lineage of a context. A clone begins with those of its origin, and any
other new context with none. -/
def deadlines : ContextHistory → Nat → List Nat
  | [], _ => []
  | (now, action) :: past, context =>
    if context < contexts past then (given? context (now, action)).toList ++ deadlines past context
    else
      match action with
      | .clone origin => deadlines past origin
      | _ => []

variable {past : ContextHistory} {now : Nat} {action : ContextAction}

theorem deadlines_cons_of_lt {context : Nat} (there : context < contexts past) :
    deadlines ((now, action) :: past) context =
      (given? context (now, action)).toList ++ deadlines past context :=
  if_pos there

theorem deadlines_cons_of_not_lt {context : Nat} (new : ¬ context < contexts past) :
    deadlines ((now, action) :: past) context =
      match action with
      | .clone origin => deadlines past origin
      | _ => [] :=
  if_neg new

theorem clonedFrom_cons_iff {origin copy : Nat} :
    ClonedFrom ((now, action) :: past) origin copy ↔
      (action = .clone origin ∧ copy = contexts past) ∨ ClonedFrom past origin copy := by
  constructor
  · intro cloned
    cases cloned with
    | clone => exact .inl ⟨rfl, rfl⟩
    | earlier step before => exact .inr before
  · rintro (⟨rfl, rfl⟩ | before)
    · exact .clone now origin past
    · exact .earlier _ before

theorem takenFrom_cons_iff {handle context : Nat} :
    TakenFrom ((now, action) :: past) handle context ↔
      (handle = handles past ∧ (action = .handle context ∨
        ∃ other, action = .copy other ∧ TakenFrom past other context)) ∨
      TakenFrom past handle context := by
  constructor
  · intro taken
    cases taken with
    | handle => exact .inl ⟨rfl, .inl rfl⟩
    | copy now other => exact .inl ⟨rfl, .inr ⟨_, rfl, other⟩⟩
    | earlier step before => exact .inr before
  · rintro (⟨rfl, rfl | ⟨other, rfl, taken⟩⟩ | before)
    · exact .handle now context past
    · exact .copy now taken
    · exact .earlier _ before

theorem cancelledThrough_cons_iff {context : Nat} :
    CancelledThrough ((now, action) :: past) context ↔
      action = .cancel context ∨ (∃ handle, action = .fire handle ∧ TakenFrom past handle context) ∨
        CancelledThrough past context := by
  constructor
  · intro cancelled
    cases cancelled with
    | cancel => exact .inl rfl
    | fire now taken => exact .inr (.inl ⟨_, rfl, taken⟩)
    | earlier step before => exact .inr (.inr before)
  · rintro (rfl | ⟨handle, rfl, taken⟩ | before)
    · exact .cancel now context past
    · exact .fire now taken
    · exact .earlier _ before

theorem contexts_le_append (later past : ContextHistory) :
    contexts past ≤ contexts (later ++ past) := by
  induction later with
  | nil => exact Nat.le_refl _
  | cons step rest ih =>
      obtain ⟨now, action⟩ := step
      cases action <;> simp only [List.cons_append, contexts] <;> omega

theorem deadlines_append (later : ContextHistory) {context : Nat}
    (there : context < contexts past) :
    deadlines (later ++ past) context =
      later.filterMap (given? context) ++ deadlines past context := by
  induction later with
  | nil => rfl
  | cons step rest ih =>
      obtain ⟨now, action⟩ := step
      have still : context < contexts (rest ++ past) :=
        Nat.lt_of_lt_of_le there (contexts_le_append rest past)
      rw [List.cons_append, deadlines_cons_of_lt still, ih, ← List.append_assoc]
      cases given : given? context (now, action) with
      | none => rw [List.filterMap_cons_none given]; rfl
      | some deadline => rw [List.filterMap_cons_some given]; rfl

theorem Sound.of_append {later : ContextHistory} (sound : Sound (later ++ past)) : Sound past := by
  induction later with
  | nil => exact sound
  | cons step rest ih => exact ih sound.2

theorem CancelledThrough.append (later : ContextHistory) {context : Nat}
    (cancelled : CancelledThrough past context) : CancelledThrough (later ++ past) context := by
  induction later with
  | nil => exact cancelled
  | cons step rest ih => exact ih.earlier step

theorem Kin.symm {history : ContextHistory} {left right : Nat} (kin : Kin history left right) :
    Kin history right left :=
  Relation.EqvGen.symm _ _ kin

theorem Kin.earlier {left right : Nat} (step : Nat × ContextAction) (kin : Kin past left right) :
    Kin (step :: past) left right :=
  Relation.EqvGen.mono (fun _ _ cloned => ClonedFrom.earlier step cloned) left right kin

theorem Kin.append (later : ContextHistory) {left right : Nat} (kin : Kin past left right) :
    Kin (later ++ past) left right := by
  induction later with
  | nil => exact kin
  | cons step rest ih => exact ih.earlier step

theorem Cancelled.append (later : ContextHistory) {context : Nat}
    (cancelled : Cancelled past context) : Cancelled (later ++ past) context := by
  obtain ⟨kin, related, through⟩ := cancelled
  exact ⟨kin, related.append later, through.append later⟩

end ContextHistory

end Rollout
