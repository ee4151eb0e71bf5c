import Rollout.Proofs.Effect
import Rollout.Proofs.Play

/-! Disturbed stores. A store may refuse calls for reasons of its own, without effect, and a
context may be done at any time. Of the tasks of a pass, those up to some point are then carried
out, but for visits to leave a scope that the refusal made out to be gone. -/

set_option autoImplicit false

namespace Rollout

open Enrolment (Visit)

/-- The world answers each call as its store does, or refuses it without effect. -/
def World.Disturbs {State : Type} (world : World State) (store : State → MemoryStore) : Prop :=
  ∀ call state,
    ((world.answer call state).1 = ((store state).answer call).1 ∧
      store (world.answer call state).2 = ((store state).answer call).2) ∨
    ((∃ refusal, (world.answer call state).1 = .error refusal) ∧
      store (world.answer call state).2 = store state)

theorem MemoryStore.disturbs_world : MemoryStore.world.Disturbs id :=
  fun _ _ => .inl ⟨rfl, rfl⟩

/-- The talk leads from one store to the other, where each call is answered by the store or is
refused without effect. -/
def MemoryStore.Hears : MemoryStore → List Exchange → MemoryStore → Prop
  | store, [], last => last = store
  | store, ⟨call, reply⟩ :: talk, last =>
    (reply = (store.answer call).1 ∧ (store.answer call).2.Hears talk last) ∨
      ((∃ refusal, reply = .error refusal) ∧ store.Hears talk last)

theorem MemoryStore.hears_append {store last : MemoryStore} {before after : List Exchange} :
    store.Hears (before ++ after) last ↔
      ∃ middle, store.Hears before middle ∧ middle.Hears after last := by
  induction before generalizing store with
  | nil => simp [Hears]
  | cons exchange rest ih =>
      obtain ⟨call, reply⟩ := exchange
      simp only [List.cons_append, Hears, ih]
      constructor
      · intro heard
        rcases heard with ⟨answered, middle, one, other⟩ | ⟨refused, middle, one, other⟩
        · exact ⟨middle, .inl ⟨answered, one⟩, other⟩
        · exact ⟨middle, .inr ⟨refused, one⟩, other⟩
      · intro heard
        rcases heard with ⟨middle, ⟨answered, one⟩ | ⟨refused, one⟩, other⟩
        · exact .inl ⟨answered, middle, one, other⟩
        · exact .inr ⟨refused, middle, one, other⟩

theorem Dialogue.hears_run {α State : Type} {world : World State} {store : State → MemoryStore}
    (disturbs : world.Disturbs store) (dialogue : Dialogue α) (state : State) :
    (store state).Hears (dialogue.run world state).exchanges
      (store (dialogue.run world state).state) := by
  induction dialogue generalizing state with
  | done result => rfl
  | note event next ih => exact ih state
  | heed operation next ih =>
      simp only [run]
      cases world.stopped? state with
      | some reason => rfl
      | none => exact ih state
  | ask call next ih =>
      have later := ih (world.answer call state).1 (world.answer call state).2
      rcases disturbs call state with ⟨answered, served⟩ | ⟨refused, same⟩
      · rw [served] at later
        exact .inl ⟨answered, later⟩
      · rw [same] at later
        exact .inr ⟨refused, later⟩

namespace Pass

variable {pass : Pass} {store last : MemoryStore} {result : Except ApplyError Unit}

/-- How a task may come out: done with its effect, or without effect, and then as a failure or as
a visit to leave a scope that is taken to be gone. -/
def ComesOut (pass : Pass) (store : MemoryStore) (task : Task) (result : Except ApplyError Unit)
    (last : MemoryStore) : Prop :=
  last = pass.effect store task ∨
    (last = store ∧ (result = .ok () → ∃ visit, task = .visit visit ∧ visit.joins = false))

theorem ComesOut.of_failure {task : Task} (same : last = store)
    (failed : ∃ error, result = .error error) : pass.ComesOut store task result last := by
  refine .inr ⟨same, ?_⟩
  obtain ⟨error, rfl⟩ := failed
  exact nofun

theorem hears_upsert {role : Role} {body : Resource} {options : List ApplyOption}
    {reply : Except StoreError Unit}
    (heard : store.Hears [⟨.upsert role body options, reply⟩] last) :
    last = store.insert body ∨ (last = store ∧ ∃ refusal, reply = .error refusal) := by
  rcases heard with ⟨answered, rfl⟩ | ⟨refused, rfl⟩
  · simp only [MemoryStore.answer] at answered ⊢
    rcases store.upsert_cases body options with accepted | ⟨refusal, refused⟩
    · rw [accepted]
      exact .inl rfl
    · rw [refused] at answered ⊢
      exact .inr ⟨rfl, refusal, answered⟩
  · exact .inr ⟨rfl, refused⟩

theorem comesOut_present {workload : Workload} {talk : List Exchange}
    (play : (pass.perform (.present workload)).Play talk result)
    (heard : store.Hears talk last) : pass.ComesOut store (.present workload) result last := by
  rcases Dialogue.play_heed play with ⟨rfl, failed⟩ | upserts
  · exact .of_failure heard failed
  · obtain ⟨reply, rfl, outcome⟩ := Dialogue.play_call upserts
    rcases hears_upsert heard with done | ⟨same, refusal, refused⟩
    · exact .inl done
    · apply ComesOut.of_failure same
      rw [outcome, refused]
      exact ⟨_, rfl⟩

theorem comesOut_equip {workload : Reference} {body : Resource} {talk : List Exchange}
    (play : (pass.perform (.equip workload body)).Play talk result)
    (heard : store.Hears talk last) : pass.ComesOut store (.equip workload body) result last := by
  rcases play_applyTrait play with ⟨failed, rfl | ⟨reply, rfl⟩⟩ |
    ⟨traitType, reply, injected, rfl, accepted⟩
  · exact .of_failure heard failed
  · refine .of_failure ?_ failed
    rcases heard with ⟨-, same⟩ | ⟨-, same⟩
    · exact same
    · exact same
  · rcases heard with ⟨known, rest⟩ | ⟨⟨refusal, impossible⟩, -⟩
    · rcases hears_upsert rest with done | ⟨same, refusal, refused⟩
      · apply Or.inl
        have known : store.traitDefinition body.apiVersion body.kind = .ok traitType := known.symm
        simp only [effect, Task.upserted?, Task.equipped?, known, injected]
        exact done
      · refine .inr ⟨same, fun succeeded => ?_⟩
        rw [accepted succeeded] at refused
        cases refused
    · cases impossible

theorem hears_get {key : Reference} {scope : Resource} {talk : List Exchange}
    (heard : store.Hears (⟨.get key, .ok scope⟩ :: talk) last) :
    store.find? key = some scope ∧ store.Hears talk last := by
  rcases heard with ⟨answered, rest⟩ | ⟨⟨refusal, impossible⟩, -⟩
  · refine ⟨?_, rest⟩
    simp only [MemoryStore.answer, MemoryStore.get] at answered
    cases found : store.find? key with
    | none => simp [found] at answered
    | some object =>
        rw [found] at answered
        cases answered
        rfl
  · cases impossible

theorem comesOut_visit {visit : Visit} {talk : List Exchange}
    (play : (pass.perform (.visit visit)).Play talk result)
    (heard : store.Hears talk last) : pass.ComesOut store (.visit visit) result last := by
  rcases visit.play_dialogue play with ⟨rfl, failed⟩ | ⟨refusal, rfl, tolerated⟩ |
    ⟨scope, rfl, settled⟩ | ⟨scope, body, reply, revised, rfl, accepted⟩
  · exact .of_failure heard failed
  · refine .inr ⟨?_, ?_⟩
    · rcases heard with ⟨-, same⟩ | ⟨-, same⟩
      · exact same
      · exact same
    · intro succeeded
      refine ⟨visit, rfl, ?_⟩
      have tolerates := tolerated succeeded
      simp only [Visit.tolerates, Bool.and_eq_true, Bool.not_eq_true'] at tolerates
      exact tolerates.1
  · obtain ⟨found, rfl⟩ := hears_get heard
    cases result with
    | error error => exact .of_failure rfl ⟨error, rfl⟩
    | ok value =>
        apply Or.inl
        simp only [effect, found]
        rw [Visit.amend_of_settled (settled rfl),
          MemoryStore.insert_self (MemoryStore.lookup?_of_find? found)]
  · obtain ⟨found, rest⟩ := hears_get heard
    have same : body.key = scope.key :=
      Resource.key_eq_of_reference (Enrolment.reference_of_revision revised)
    have written : store.update body = .ok (store.insert body) :=
      MemoryStore.update_of_lookup? (same ▸ MemoryStore.lookup?_of_find? found)
    rcases rest with ⟨-, after⟩ | ⟨⟨refusal, refused⟩, after⟩
    · apply Or.inl
      simp only [effect, found, Visit.amend, revised]
      simp only [MemoryStore.answer, written] at after
      exact after
    · refine .inr ⟨after, fun succeeded => ?_⟩
      rw [accepted succeeded] at refused
      cases refused

theorem comesOut_perform {task : Task} {talk : List Exchange}
    (play : (pass.perform task).Play talk result) (heard : store.Hears talk last) :
    pass.ComesOut store task result last := by
  cases task with
  | present workload => exact comesOut_present play heard
  | equip workload body => exact comesOut_equip play heard
  | visit visit => exact comesOut_visit play heard

end Pass

/-- Of a list of tasks, those that a run carried out that may have been broken off. -/
inductive Task.Remnant : List Task → List Task → Prop where
  | stopped (tasks : List Task) : Remnant tasks []
  | carried (task : Task) {rest done : List Task} (later : Remnant rest done) :
      Remnant (task :: rest) (task :: done)
  | skipped {visit : Visit} (leaves : visit.joins = false) {rest done : List Task}
      (later : Remnant rest done) : Remnant (.visit visit :: rest) done

theorem Task.Remnant.refl (tasks : List Task) : Task.Remnant tasks tasks := by
  induction tasks with
  | nil => exact .stopped []
  | cons task rest ih => exact .carried task ih

theorem Task.Remnant.subset {tasks done : List Task} (remnant : Task.Remnant tasks done) :
    done ⊆ tasks := by
  induction remnant with
  | stopped tasks => exact List.nil_subset tasks
  | carried task later ih => exact List.cons_subset_cons task ih
  | skipped leaves later ih => exact List.subset_cons_of_subset _ ih

namespace Pass

variable {pass : Pass} {store last : MemoryStore}

theorem remnant_of_play {tasks : List Task} {talk : List Exchange}
    {result : Except ApplyError Unit}
    (play : (Dialogue.each pass.perform tasks).Play talk result)
    (heard : store.Hears talk last) :
    ∃ done, Task.Remnant tasks done ∧ last = pass.after store done := by
  induction tasks generalizing store talk with
  | nil =>
      cases play
      exact ⟨[], .stopped [], heard⟩
  | cons task rest ih =>
      rcases Dialogue.play_bind play with ⟨error, -, short⟩ |
        ⟨value, before, after, rfl, one, other⟩
      · rcases comesOut_perform short heard with rfl | ⟨rfl, -⟩
        · exact ⟨[task], .carried task (.stopped rest), rfl⟩
        · exact ⟨[], .stopped _, rfl⟩
      · obtain ⟨middle, first, later⟩ := MemoryStore.hears_append.mp heard
        obtain ⟨done, remnant, ends⟩ := ih other later
        rcases comesOut_perform one first with rfl | ⟨rfl, skips⟩
        · exact ⟨task :: done, .carried task remnant, ends⟩
        · obtain ⟨visit, rfl, leaves⟩ := skips rfl
          exact ⟨done, .skipped leaves remnant, ends⟩

theorem remnant_of_run {State : Type} {world : World State} {stored : State → MemoryStore}
    (disturbs : world.Disturbs stored) (pass : Pass) (request : Request) (state : State) :
    ∃ done, Task.Remnant pass.tasks done ∧
      stored (pass.run request world state).state = pass.after (stored state) done := by
  obtain ⟨-, -, left⟩ := pass.run_tasks request world state
  rw [left]
  exact remnant_of_play (Dialogue.play_run world _ state) (Dialogue.hears_run disturbs _ state)

end Pass

end Rollout
