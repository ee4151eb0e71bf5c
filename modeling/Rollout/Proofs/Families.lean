import Rollout.Proofs.Ancestry

/-! Families of contexts. Whatever was done, in whatever order and with however many contexts, a
context is cancelled just when a cancel was fired through some context or handle of its family, and
otherwise it goes by the earliest deadline on its own lineage. What is done later with other
contexts puts no deadline on it, and once it is done it stays so. -/

set_option autoImplicit false

namespace Rollout

open ContextHistory

def Context.limited (context : Context) : Option Nat → Context
  | some deadline => context.withDeadline deadline
  | none => context

namespace Contexts

def ofHistory? : ContextHistory → Option Contexts
  | [] => some {}
  | (now, action) :: past => (ofHistory? past).bind (·.perform now action)

def familyAt? (all : Contexts) (place : Nat) : Option Nat :=
  all.contexts[place]?.map (·.family)

theorem familyAt?_of_getElem? {all : Contexts} {place : Nat} {context : Context}
    (found : all.contexts[place]? = some context) : all.familyAt? place = some context.family :=
  Option.map_eq_some_iff.mpr ⟨context, found, rfl⟩

/-! ### What one action does -/

def made? (all : Contexts) : ContextAction → Option Context
  | .create request => some { request := request, family := all.families }
  | .fresh place =>
    all.contexts[place]?.map fun context => { request := context.request, family := all.families }
  | .clone place => all.contexts[place]?
  | _ => none

def handed? (all : Contexts) : ContextAction → Option Nat
  | .handle place => all.familyAt? place
  | .copy handle => all.handles[handle]?
  | _ => none

def struck? (all : Contexts) : ContextAction → Option Nat
  | .cancel place => all.familyAt? place
  | .fire handle => all.handles[handle]?
  | _ => none

/-- All that an action changes: it puts a deadline on one context, or it makes one context or one
handle or cancels one family. -/
structure Turn (all : Contexts) (now : Nat) (action : ContextAction) (after : Contexts) : Prop where
  contexts : after.contexts =
    all.contexts.mapIdx (fun place context => context.limited (given? place (now, action))) ++
      (all.made? action).toList
  handles : after.handles = all.handles ++ (all.handed? action).toList
  cancelled : after.cancelled = (all.struck? action).toList ++ all.cancelled
  families : all.families ≤ after.families
  numbered : ∀ context, all.made? action = some context →
    context ∈ all.contexts ∨ context.family = all.families ∧ all.families < after.families

variable {all after : Contexts} {past : ContextHistory} {now : Nat} {action : ContextAction}

theorem modify_withDeadline (contexts : List Context) (place deadline : Nat) :
    contexts.modify place (·.withDeadline deadline) = contexts.mapIdx fun other context =>
      context.limited (if place = other then some deadline else none) := by
  apply List.ext_getElem?
  intro other
  rw [List.getElem?_modify, List.getElem?_mapIdx]
  by_cases here : place = other
  · simp only [here, if_true, Context.limited]
    rfl
  · simp only [here, if_false, Context.limited]
    rfl

theorem mapIdx_limited_none (contexts : List Context) :
    contexts.mapIdx (fun _ context => context.limited none) = contexts := by
  apply List.ext_getElem?
  intro place
  rw [List.getElem?_mapIdx]
  exact Option.map_id'

theorem turn_of_perform (performed : all.perform now action = some after) :
    all.Turn now action after := by
  cases action with
  | create request =>
      cases performed
      constructor <;> simp [create, given?, made?, handed?, struck?, mapIdx_limited_none]
  | clone place =>
      obtain ⟨context, found, ⟨⟩⟩ := Option.bind_eq_some_iff.mp performed
      have member := List.mem_of_getElem? found
      constructor <;> simp [given?, made?, handed?, struck?, found, member, mapIdx_limited_none]
  | fresh place =>
      obtain ⟨context, found, ⟨⟩⟩ := Option.bind_eq_some_iff.mp performed
      constructor <;> simp [create, given?, made?, handed?, struck?, found, mapIdx_limited_none]
  | handle place =>
      obtain ⟨context, found, ⟨⟩⟩ := Option.bind_eq_some_iff.mp performed
      constructor <;> simp [given?, made?, handed?, familyAt?, struck?, found, mapIdx_limited_none]
  | copy handle =>
      obtain ⟨family, found, ⟨⟩⟩ := Option.bind_eq_some_iff.mp performed
      constructor <;> simp [given?, made?, handed?, struck?, found, mapIdx_limited_none]
  | cancel place =>
      obtain ⟨context, found, ⟨⟩⟩ := Option.bind_eq_some_iff.mp performed
      constructor <;> simp [cancelFamily, given?, made?, handed?, struck?, familyAt?, found,
        mapIdx_limited_none]
  | fire handle =>
      obtain ⟨family, found, ⟨⟩⟩ := Option.bind_eq_some_iff.mp performed
      constructor <;> simp [cancelFamily, given?, made?, handed?, struck?, found,
        mapIdx_limited_none]
  | deadline place moment =>
      obtain ⟨-, -, ⟨⟩⟩ := Option.bind_eq_some_iff.mp performed
      constructor <;> simp [withDeadline, given?, made?, handed?, struck?, modify_withDeadline]
  | timeout place duration =>
      obtain ⟨-, -, ⟨⟩⟩ := Option.bind_eq_some_iff.mp performed
      constructor <;> simp [withDeadline, given?, made?, handed?, struck?, modify_withDeadline]

theorem family_limited (context : Context) (deadline? : Option Nat) :
    (context.limited deadline?).family = context.family := by
  cases deadline? <;> rfl

theorem deadline?_limited {context : Context} {moments : List Nat}
    (earliest : context.deadline? = moments.min?) (deadline? : Option Nat) :
    (context.limited deadline?).deadline? = (deadline?.toList ++ moments).min? := by
  cases deadline? with
  | none => exact earliest
  | some deadline =>
      simp only [Context.limited, Context.withDeadline, earliest, Option.toList_some,
        List.singleton_append, List.min?_cons]
      cases moments.min? with
      | none => rfl
      | some existing => exact congrArg some (Nat.min_comm existing deadline)

namespace Turn

variable (turn : all.Turn now action after) {place : Nat}
include turn

theorem getElem?_of_lt (there : place < all.contexts.length) :
    after.contexts[place]? =
      all.contexts[place]?.map (·.limited (given? place (now, action))) := by
  rw [turn.contexts, List.getElem?_append_left (by rwa [List.length_mapIdx]),
    List.getElem?_mapIdx]

theorem getElem?_length {context : Context} (made : all.made? action = some context) :
    after.contexts[all.contexts.length]? = some context := by
  rw [turn.contexts, List.getElem?_append_right (Nat.le_of_eq List.length_mapIdx),
    List.length_mapIdx, Nat.sub_self, made]
  rfl

theorem made_of_getElem? {context : Context} (beyond : all.contexts.length ≤ place)
    (found : after.contexts[place]? = some context) :
    place = all.contexts.length ∧ all.made? action = some context := by
  rw [turn.contexts, List.getElem?_append_right (by rwa [List.length_mapIdx]),
    List.length_mapIdx] at found
  cases made : all.made? action with
  | none =>
      rw [made] at found
      cases found
  | some other =>
      rw [made, Option.toList_some, List.getElem?_singleton] at found
      split at found
      next atEnd => exact ⟨by omega, found⟩
      next => cases found

theorem familyAt?_kept {family : Nat} (known : all.familyAt? place = some family) :
    after.familyAt? place = some family := by
  obtain ⟨context, found, rfl⟩ := Option.map_eq_some_iff.mp known
  have there : place < all.contexts.length := (List.getElem?_eq_some_iff.mp found).1
  rw [familyAt?, turn.getElem?_of_lt there, found]
  exact congrArg some (family_limited context _)

theorem familyAt?_cases {family : Nat} (known : after.familyAt? place = some family) :
    all.familyAt? place = some family ∨
      place = all.contexts.length ∧ (all.made? action).map (·.family) = some family := by
  obtain ⟨context, found, rfl⟩ := Option.map_eq_some_iff.mp known
  by_cases there : place < all.contexts.length
  · rw [turn.getElem?_of_lt there] at found
    obtain ⟨old, before, rfl⟩ := Option.map_eq_some_iff.mp found
    rw [family_limited]
    exact .inl (familyAt?_of_getElem? before)
  · obtain ⟨atEnd, made⟩ := turn.made_of_getElem? (Nat.le_of_not_lt there) found
    exact .inr ⟨atEnd, Option.map_eq_some_iff.mpr ⟨context, made, rfl⟩⟩

theorem handles_kept {handle family : Nat} (held : all.handles[handle]? = some family) :
    after.handles[handle]? = some family := by
  rw [turn.handles, List.getElem?_append_left (List.getElem?_eq_some_iff.mp held).1, held]

theorem handles_made {family : Nat} (handed : all.handed? action = some family) :
    after.handles[all.handles.length]? = some family := by
  rw [turn.handles, handed]
  exact List.getElem?_concat_length

theorem handles_cases {handle family : Nat} (held : after.handles[handle]? = some family) :
    all.handles[handle]? = some family ∨
      handle = all.handles.length ∧ all.handed? action = some family := by
  rw [turn.handles] at held
  cases handed : all.handed? action with
  | none =>
      rw [handed, Option.toList_none, List.append_nil] at held
      exact .inl held
  | some other =>
      rw [handed, Option.toList_some, List.getElem?_append, List.getElem?_singleton] at held
      split at held
      next => exact .inl held
      next beyond =>
        split at held
        next atEnd => exact .inr ⟨by omega, held⟩
        next => cases held

theorem mem_cancelled_iff {family : Nat} :
    family ∈ after.cancelled ↔ all.struck? action = some family ∨ family ∈ all.cancelled := by
  rw [turn.cancelled, List.mem_append, Option.mem_toList]

end Turn

structure Reflects (all : Contexts) (history : ContextHistory) : Prop where
  contexts : all.contexts.length = history.contexts
  handles : all.handles.length = history.handles
  numbered : ∀ context ∈ all.contexts, context.family < all.families
  cloned : ∀ {origin copy}, ClonedFrom history origin copy →
    ∃ family, all.familyAt? origin = some family ∧ all.familyAt? copy = some family
  kin : ∀ {left right family}, all.familyAt? left = some family →
    all.familyAt? right = some family → Kin history left right
  taken : ∀ {handle place}, TakenFrom history handle place →
    ∃ family, all.handles[handle]? = some family ∧ all.familyAt? place = some family
  source : ∀ {handle family}, all.handles[handle]? = some family →
    ∃ place, TakenFrom history handle place
  struck : ∀ {place}, CancelledThrough history place →
    ∃ family ∈ all.cancelled, all.familyAt? place = some family
  through : ∀ {family}, family ∈ all.cancelled →
    ∃ place, CancelledThrough history place ∧ all.familyAt? place = some family
  deadline : ∀ {place context}, all.contexts[place]? = some context →
    context.deadline? = (deadlines history place).min?

theorem reflects_nil : ({} : Contexts).Reflects [] where
  contexts := rfl
  handles := rfl
  numbered := by rintro context ⟨⟩
  cloned := by rintro origin copy ⟨⟩
  kin := by rintro left right family ⟨⟩
  taken := by rintro handle place ⟨⟩
  source := by rintro handle family ⟨⟩
  struck := by rintro place ⟨⟩
  through := by rintro family ⟨⟩
  deadline := by rintro place context ⟨⟩

theorem perform_isSome_iff (reflects : all.Reflects past) :
    (all.perform now action).isSome ↔ Admits past action := by
  cases action <;>
    simp [perform, Admits, ← reflects.contexts, ← reflects.handles, Option.isSome_bind]

theorem contexts_cons (performed : all.perform now action = some after) :
    ContextHistory.contexts ((now, action) :: past) =
      past.contexts + (all.made? action).toList.length := by
  cases action with
  | create request => rfl
  | clone place =>
      obtain ⟨context, found, -⟩ := Option.bind_eq_some_iff.mp performed
      simp only [made?, found]
      rfl
  | fresh place =>
      obtain ⟨context, found, -⟩ := Option.bind_eq_some_iff.mp performed
      simp only [made?, found]
      rfl
  | _ => rfl

theorem handles_cons (performed : all.perform now action = some after) :
    ContextHistory.handles ((now, action) :: past) =
      past.handles + (all.handed? action).toList.length := by
  cases action with
  | handle place =>
      obtain ⟨context, found, -⟩ := Option.bind_eq_some_iff.mp performed
      simp only [handed?, familyAt?, found]
      rfl
  | copy handle =>
      obtain ⟨family, found, -⟩ := Option.bind_eq_some_iff.mp performed
      simp only [handed?, found]
      rfl
  | _ => rfl

namespace Reflects

variable (reflects : all.Reflects past)
include reflects

theorem kin_made {context : Context} {place : Nat} (made : all.made? action = some context)
    (known : all.familyAt? place = some context.family) :
    Kin ((now, action) :: past) place past.contexts := by
  have nobody : context.family ≠ all.families := by
    intro same
    obtain ⟨other, found, family⟩ := Option.map_eq_some_iff.mp known
    have before := reflects.numbered other (List.mem_of_getElem? found)
    omega
  cases action with
  | create request =>
      cases made
      exact absurd rfl nobody
  | clone origin =>
      have related := reflects.kin known (familyAt?_of_getElem? made)
      exact .trans _ origin _ (related.earlier _) (.rel _ _ (.clone now origin past))
  | fresh origin =>
      obtain ⟨other, -, same⟩ := Option.map_eq_some_iff.mp made
      exact absurd (congrArg Context.family same).symm nobody
  | _ => cases made

variable (performed : all.perform now action = some after)
include performed

theorem numbered_step : ∀ context ∈ after.contexts, context.family < after.families := by
  have turn := turn_of_perform performed
  intro context member
  rw [turn.contexts, List.mem_append, List.mem_mapIdx] at member
  rcases member with ⟨place, there, rfl⟩ | made
  · rw [family_limited]
    exact Nat.lt_of_lt_of_le (reflects.numbered _ (List.getElem_mem there)) turn.families
  · rcases turn.numbered context (Option.mem_toList.mp made) with old | ⟨new, more⟩
    · exact Nat.lt_of_lt_of_le (reflects.numbered context old) turn.families
    · rwa [new]

theorem cloned_step {origin copy : Nat} (cloned : ClonedFrom ((now, action) :: past) origin copy) :
    ∃ family, after.familyAt? origin = some family ∧ after.familyAt? copy = some family := by
  have turn := turn_of_perform performed
  rcases clonedFrom_cons_iff.mp cloned with ⟨rfl, rfl⟩ | before
  · obtain ⟨context, found, -⟩ := Option.bind_eq_some_iff.mp performed
    have known := familyAt?_of_getElem? found
    have made : after.contexts[past.contexts]? = some context := by
      rw [← reflects.contexts]
      exact turn.getElem?_length found
    exact ⟨context.family, turn.familyAt?_kept known, familyAt?_of_getElem? made⟩
  · obtain ⟨family, atOrigin, atCopy⟩ := reflects.cloned before
    exact ⟨family, turn.familyAt?_kept atOrigin, turn.familyAt?_kept atCopy⟩

theorem kin_step {left right family : Nat} (atLeft : after.familyAt? left = some family)
    (atRight : after.familyAt? right = some family) : Kin ((now, action) :: past) left right := by
  have turn := turn_of_perform performed
  rcases turn.familyAt?_cases atLeft with oldLeft | ⟨newLeft, madeLeft⟩
  · rcases turn.familyAt?_cases atRight with oldRight | ⟨newRight, madeRight⟩
    · exact (reflects.kin oldLeft oldRight).earlier _
    · obtain ⟨context, made, rfl⟩ := Option.map_eq_some_iff.mp madeRight
      rw [newRight, reflects.contexts]
      exact reflects.kin_made made oldLeft
  · obtain ⟨context, made, rfl⟩ := Option.map_eq_some_iff.mp madeLeft
    rw [newLeft, reflects.contexts]
    rcases turn.familyAt?_cases atRight with oldRight | ⟨newRight, -⟩
    · exact (reflects.kin_made made oldRight).symm
    · rw [newRight, reflects.contexts]
      exact .refl _

theorem taken_step {handle place : Nat} (taken : TakenFrom ((now, action) :: past) handle place) :
    ∃ family, after.handles[handle]? = some family ∧ after.familyAt? place = some family := by
  have turn := turn_of_perform performed
  have made {family : Nat} (handed : all.handed? action = some family) :
      after.handles[past.handles]? = some family :=
    reflects.handles ▸ turn.handles_made handed
  rcases takenFrom_cons_iff.mp taken with ⟨rfl, rfl | ⟨other, rfl, before⟩⟩ | before
  · obtain ⟨context, found, -⟩ := Option.bind_eq_some_iff.mp performed
    have known := familyAt?_of_getElem? found
    exact ⟨context.family, made known, turn.familyAt?_kept known⟩
  · obtain ⟨family, held, known⟩ := reflects.taken before
    exact ⟨family, made held, turn.familyAt?_kept known⟩
  · obtain ⟨family, held, known⟩ := reflects.taken before
    exact ⟨family, turn.handles_kept held, turn.familyAt?_kept known⟩

theorem source_step {handle family : Nat} (held : after.handles[handle]? = some family) :
    ∃ place, TakenFrom ((now, action) :: past) handle place := by
  have turn := turn_of_perform performed
  rcases turn.handles_cases held with before | ⟨rfl, handed⟩
  · obtain ⟨place, taken⟩ := reflects.source before
    exact ⟨place, taken.earlier _⟩
  · rw [reflects.handles]
    cases action with
    | handle place => exact ⟨place, .handle now place past⟩
    | copy other =>
        obtain ⟨place, taken⟩ := reflects.source handed
        exact ⟨place, .copy now taken⟩
    | _ => cases handed

theorem struck_step {place : Nat} (cancelled : CancelledThrough ((now, action) :: past) place) :
    ∃ family ∈ after.cancelled, after.familyAt? place = some family := by
  have turn := turn_of_perform performed
  rcases cancelledThrough_cons_iff.mp cancelled with rfl | ⟨handle, rfl, taken⟩ | before
  · obtain ⟨context, found, -⟩ := Option.bind_eq_some_iff.mp performed
    have known := familyAt?_of_getElem? found
    exact ⟨context.family, turn.mem_cancelled_iff.mpr (.inl known), turn.familyAt?_kept known⟩
  · obtain ⟨family, held, known⟩ := reflects.taken taken
    exact ⟨family, turn.mem_cancelled_iff.mpr (.inl held), turn.familyAt?_kept known⟩
  · obtain ⟨family, member, known⟩ := reflects.struck before
    exact ⟨family, turn.mem_cancelled_iff.mpr (.inr member), turn.familyAt?_kept known⟩

theorem through_step {family : Nat} (member : family ∈ after.cancelled) :
    ∃ place, CancelledThrough ((now, action) :: past) place ∧
      after.familyAt? place = some family := by
  have turn := turn_of_perform performed
  rcases turn.mem_cancelled_iff.mp member with struck | before
  · cases action with
    | cancel place => exact ⟨place, .cancel now place past, turn.familyAt?_kept struck⟩
    | fire handle =>
        have held : all.handles[handle]? = some family := struck
        obtain ⟨place, taken⟩ := reflects.source held
        obtain ⟨same, held', known⟩ := reflects.taken taken
        obtain rfl : family = same := Option.some.inj (held.symm.trans held')
        exact ⟨place, .fire now taken, turn.familyAt?_kept known⟩
    | _ => cases struck
  · obtain ⟨place, cancelled, known⟩ := reflects.through before
    exact ⟨place, cancelled.earlier _, turn.familyAt?_kept known⟩

theorem deadline_step {place : Nat} {context : Context}
    (found : after.contexts[place]? = some context) :
    context.deadline? = (deadlines ((now, action) :: past) place).min? := by
  have turn := turn_of_perform performed
  by_cases there : place < all.contexts.length
  · rw [turn.getElem?_of_lt there] at found
    obtain ⟨old, before, rfl⟩ := Option.map_eq_some_iff.mp found
    rw [deadlines_cons_of_lt (reflects.contexts ▸ there)]
    exact deadline?_limited (reflects.deadline before) _
  · obtain ⟨rfl, made⟩ := turn.made_of_getElem? (Nat.le_of_not_lt there) found
    rw [deadlines_cons_of_not_lt (reflects.contexts ▸ there)]
    cases action with
    | create request =>
        cases made
        rfl
    | clone origin => exact reflects.deadline made
    | fresh origin =>
        obtain ⟨-, -, rfl⟩ := Option.map_eq_some_iff.mp made
        rfl
    | _ => cases made

theorem step : after.Reflects ((now, action) :: past) where
  contexts := by
    rw [contexts_cons performed, ← reflects.contexts, (turn_of_perform performed).contexts,
      List.length_append, List.length_mapIdx]
  handles := by
    rw [handles_cons performed, ← reflects.handles, (turn_of_perform performed).handles,
      List.length_append]
  numbered := reflects.numbered_step performed
  cloned := reflects.cloned_step performed
  kin := reflects.kin_step performed
  taken := reflects.taken_step performed
  source := reflects.source_step performed
  struck := reflects.struck_step performed
  through := reflects.through_step performed
  deadline := reflects.deadline_step performed

end Reflects

theorem exists_reflects {history : ContextHistory} (sound : history.Sound) :
    ∃ all, ofHistory? history = some all ∧ all.Reflects history := by
  induction history with
  | nil => exact ⟨{}, rfl, reflects_nil⟩
  | cons step past ih =>
      obtain ⟨now, action⟩ := step
      obtain ⟨admitted, sound⟩ := sound
      obtain ⟨all, reached, reflects⟩ := ih sound
      obtain ⟨after, performed⟩ : ∃ after, all.perform now action = some after :=
        Option.isSome_iff_exists.mp ((perform_isSome_iff reflects).mpr admitted)
      refine ⟨after, ?_, reflects.step performed⟩
      rw [ofHistory?, reached]
      exact performed

/-! ### What a context reports -/

theorem earliest_passed_iff {moments : List Nat} {now : Nat} :
    (∃ earliest, moments.min? = some earliest ∧ earliest ≤ now) ↔
      ∃ moment ∈ moments, moment ≤ now := by
  constructor
  · rintro ⟨earliest, least, passed⟩
    exact ⟨earliest, List.min?_mem least, passed⟩
  · rintro ⟨moment, member, passed⟩
    obtain ⟨earliest, least⟩ := Option.isSome_iff_exists.mp (List.isSome_min?_of_mem member)
    exact ⟨earliest, least,
      Nat.le_trans ((List.min?_eq_some_iff.mp least).2 moment member) passed⟩

namespace Reflects

variable {history : ContextHistory} (reflects : all.Reflects history)
include reflects

theorem familyAt?_of_kin {left right : Nat} (kin : Kin history left right) :
    all.familyAt? left = all.familyAt? right := by
  induction kin with
  | rel origin copy cloned =>
      obtain ⟨family, atOrigin, atCopy⟩ := reflects.cloned cloned
      rw [atOrigin, atCopy]
  | refl place => rfl
  | symm left right _ ih => exact ih.symm
  | trans left middle right _ _ first second => exact first.trans second

theorem mem_cancelled_iff {place family : Nat} (known : all.familyAt? place = some family) :
    family ∈ all.cancelled ↔ Cancelled history place := by
  constructor
  · intro member
    obtain ⟨kin, through, related⟩ := reflects.through member
    exact ⟨kin, reflects.kin known related, through⟩
  · rintro ⟨kin, related, through⟩
    obtain ⟨same, member, atKin⟩ := reflects.struck through
    have agree := reflects.familyAt?_of_kin related
    rw [known, atKin] at agree
    cases agree
    exact member

variable {place : Nat} {context : Context} {now : Nat}

theorem contains_iff (found : all.contexts[place]? = some context) :
    all.cancelled.contains context.family = true ↔ Cancelled history place :=
  List.contains_iff_mem.trans (reflects.mem_cancelled_iff (familyAt?_of_getElem? found))

theorem stopReason?_eq_cancelled_iff (found : all.contexts[place]? = some context) :
    all.stopReason? context now = some .cancelled ↔ Cancelled history place :=
  StopReason.of?_eq_cancelled_iff.trans (reflects.contains_iff found)

theorem stopReason?_eq_deadlineExceeded_iff (found : all.contexts[place]? = some context) :
    all.stopReason? context now = some .deadlineExceeded ↔
      ¬ Cancelled history place ∧
        ∃ earliest, (deadlines history place).min? = some earliest ∧ earliest ≤ now := by
  rw [stopReason?, StopReason.of?_eq_deadlineExceeded_iff, ← reflects.deadline found,
    ← reflects.contains_iff found, Bool.not_eq_true]

theorem stopReason?_ne_none_iff (found : all.contexts[place]? = some context) :
    all.stopReason? context now ≠ none ↔
      Cancelled history place ∨ ∃ deadline ∈ deadlines history place, deadline ≤ now := by
  rw [← earliest_passed_iff]
  constructor
  · intro done
    cases said : all.stopReason? context now with
    | none => exact absurd said done
    | some reason =>
        cases reason with
        | cancelled => exact .inl ((reflects.stopReason?_eq_cancelled_iff found).mp said)
        | deadlineExceeded =>
            exact .inr ((reflects.stopReason?_eq_deadlineExceeded_iff found).mp said).2
  · intro cause live
    by_cases cancelled : Cancelled history place
    · rw [(reflects.stopReason?_eq_cancelled_iff found).mpr cancelled] at live
      cases live
    · have passed := cause.resolve_left cancelled
      rw [(reflects.stopReason?_eq_deadlineExceeded_iff found).mpr ⟨cancelled, passed⟩] at live
      cases live

end Reflects

/-- What the contexts report is what their history says, at any moment. -/
structure Obeys (all : Contexts) (history : ContextHistory) : Prop where
  contexts : all.contexts.length = history.contexts
  cancelled : ∀ place context now, all.contexts[place]? = some context →
    (all.stopReason? context now = some .cancelled ↔ Cancelled history place)
  deadlineExceeded : ∀ place context now, all.contexts[place]? = some context →
    (all.stopReason? context now = some .deadlineExceeded ↔ ¬ Cancelled history place ∧
      ∃ earliest, (deadlines history place).min? = some earliest ∧ earliest ≤ now)
  live : ∀ place context now, all.contexts[place]? = some context →
    (all.stopReason? context now = none ↔ ¬ Cancelled history place ∧
      ∀ deadline ∈ deadlines history place, now < deadline)
  deadline : ∀ place context, all.contexts[place]? = some context →
    context.deadline? = (deadlines history place).min?

theorem Reflects.obeys {history : ContextHistory} (reflects : all.Reflects history) :
    all.Obeys history where
  contexts := reflects.contexts
  cancelled _ _ _ found := reflects.stopReason?_eq_cancelled_iff found
  deadlineExceeded _ _ _ found := reflects.stopReason?_eq_deadlineExceeded_iff found
  live place context now found := by
    rw [← not_iff_not, ← ne_eq, reflects.stopReason?_ne_none_iff found]
    simp only [not_and_or, not_not, not_forall, Nat.not_lt, exists_prop]
  deadline _ _ found := reflects.deadline found

/-- Contexts obey their history. A context stays there whatever is done later, its deadline moves
only if one is put on that very context, and as the clock does not go back, it stays done. -/
theorem stop_by_family_and_lineage (history : ContextHistory) (sound : history.Sound) :
    ∃ all, ofHistory? history = some all ∧ all.Obeys history ∧
      ∀ later past, history = later ++ past → ∃ before, ofHistory? past = some before ∧
        ∀ place old, before.contexts[place]? = some old →
          ∃ context, all.contexts[place]? = some context ∧
            ((∀ step ∈ later, given? place step = none) → context.deadline? = old.deadline?) ∧
            ∀ now moment, now ≤ moment → before.stopReason? old now ≠ none →
              all.stopReason? context moment ≠ none := by
  obtain ⟨all, reached, reflects⟩ := exists_reflects sound
  refine ⟨all, reached, reflects.obeys, ?_⟩
  rintro later past rfl
  obtain ⟨before, reachedBefore, reflectsBefore⟩ := exists_reflects sound.of_append
  refine ⟨before, reachedBefore, fun place old foundBefore => ?_⟩
  have there : place < past.contexts :=
    reflectsBefore.contexts ▸ (List.getElem?_eq_some_iff.mp foundBefore).1
  have still : place < all.contexts.length :=
    reflects.contexts ▸ Nat.lt_of_lt_of_le there (contexts_le_append later past)
  have found : all.contexts[place]? = some all.contexts[place] := List.getElem?_eq_getElem still
  refine ⟨all.contexts[place], found, ?_, ?_⟩
  · intro ungiven
    rw [reflects.deadline found, reflectsBefore.deadline foundBefore, deadlines_append later there,
      List.filterMap_eq_nil_iff.mpr ungiven, List.nil_append]
  · intro now moment onward done
    rcases (reflectsBefore.stopReason?_ne_none_iff foundBefore).mp done with
      cancelled | ⟨deadline, given, passed⟩
    · exact (reflects.stopReason?_ne_none_iff found).mpr (.inl (cancelled.append later))
    · refine (reflects.stopReason?_ne_none_iff found).mpr (.inr ⟨deadline, ?_, ?_⟩)
      · rw [deadlines_append later there]
        exact List.mem_append_right _ given
      · exact Nat.le_trans passed onward

def clonedAndFired : ContextHistory :=
  [(9, .fire 1), (8, .copy 0), (7, .timeout 1 2), (6, .handle 1), (5, .fresh 0), (4, .clone 0),
    (3, .deadline 0 20), (2, .create { requestId := "r" })]

theorem clone_stops_origin : clonedAndFired.Sound ∧
    ∃ all, ofHistory? clonedAndFired = some all ∧
      (∃ context, all.contexts[0]? = some context ∧ context.deadline? = some 20 ∧
        ∀ now, all.stopReason? context now = some .cancelled) ∧
      ∃ context, all.contexts[2]? = some context ∧ ∀ now, all.stopReason? context now = none := by
  have sound : clonedAndFired.Sound := by decide
  obtain ⟨all, reached, obeys, -⟩ := stop_by_family_and_lineage clonedAndFired sound
  have cancelled : Cancelled clonedAndFired 0 := by
    refine ⟨1, .rel 0 1 ?_, ?_⟩
    · exact .earlier _ (.earlier _ (.earlier _ (.earlier _ (.earlier _ (.clone 4 0 _)))))
    · exact .fire 9 (.copy 8 (.earlier _ (.handle 6 1 _)))
  refine ⟨sound, all, reached, ?_, ?_⟩
  · have there : 0 < all.contexts.length := by
      rw [obeys.contexts]
      decide
    have found := List.getElem?_eq_getElem there
    refine ⟨_, found, obeys.deadline 0 _ found, fun now => ?_⟩
    exact (obeys.cancelled 0 _ now found).mpr cancelled
  · cases reached
    exact ⟨_, rfl, fun now => rfl⟩

end Contexts

end Rollout
