import Rollout.Proofs.Memory
import Rollout.Proofs.Tasks
import Rollout.Proofs.Worlds

/-! What a pass does to a store in memory. A task succeeds just in the stores that are ready for
it; there it makes known calls and has a known effect. So has a list of tasks, step by step. -/

set_option autoImplicit false

namespace Rollout

open Enrolment (Visit revision)

def Run.Goes (run : Run MemoryStore Unit) (calls : List Call) (after : MemoryStore) : Prop :=
  run.result = .ok () ∧ run.calls = calls ∧ run.state = after

/-- How a store answers when it is asked for a trait type. -/
abbrev TraitTypes := String → String → Except StoreError TraitType

namespace Task

def equipped? (types : TraitTypes) (workload : Reference) (body : Resource) : Option Resource :=
  match types body.apiVersion body.kind with
  | .error _ => none
  | .ok traitType =>
    let injected := body.inject traitType.injectionPath? workload
    match injected.failure with
    | some _ => none
    | none => some injected.resource

def upserted? (types : TraitTypes) : Task → Option Resource
  | .present workload => some workload.body
  | .equip workload body => equipped? types workload body
  | .visit _ => none

end Task

/-- A visit can be made where its scope is as given, or is not there. -/
def Enrolment.Visit.Possible (config : Config) (visit : Visit) : Option Resource → Prop
  | some scope => visit.Feasible config scope
  | none => visit.tolerates config (.missing visit.key) = true

namespace Pass

def Ready (pass : Pass) (store : MemoryStore) (task : Task) : Prop :=
  match task with
  | .visit visit => visit.Possible pass.config (store.find? visit.key)
  | other =>
    ∃ body, other.upserted? store.traitDefinition = some body ∧
      store.upsert body pass.options = .ok (store.insert body)

def effect (pass : Pass) (store : MemoryStore) (task : Task) : MemoryStore :=
  match task with
  | .visit visit =>
    match store.find? visit.key with
    | some scope => store.insert (visit.amend pass.config scope)
    | none => store
  | other =>
    match other.upserted? store.traitDefinition with
    | some body => store.insert body
    | none => store

def callsOf (pass : Pass) (store : MemoryStore) : Task → List Call
  | .present workload => [.upsert .workload workload.body pass.options]
  | .equip workload body =>
    .traitDefinition body.apiVersion body.kind ::
      (Task.equipped? store.traitDefinition workload body).toList.map
        (.upsert .trait · pass.options)
  | .visit visit =>
    .get visit.key ::
      match (store.find? visit.key).map (revision pass.config visit.change) with
      | some (.ok (some body)) => [.update .scope body]
      | _ => []

theorem effect_visit_of_revised {pass : Pass} {store : MemoryStore} {visit : Visit}
    {body : Resource}
    (revised : visit.revised? pass.config (store.find? visit.key) = some body) :
    pass.effect store (.visit visit) = store.insert body := by
  obtain ⟨scope, found, made⟩ := Visit.revised?_eq_some_iff.mp revised
  simp only [effect, found, Visit.amend, made]

theorem effect_visit_of_not_revised {pass : Pass} {store : MemoryStore} {visit : Visit}
    (unrevised : visit.revised? pass.config (store.find? visit.key) = none) :
    pass.effect store (.visit visit) = store := by
  simp only [effect]
  cases found : store.find? visit.key with
  | none => rfl
  | some scope =>
      have same : visit.amend pass.config scope = scope := by
        rcases Visit.amend_cases pass.config visit scope with same | made
        · exact same
        · have revised := Visit.revised?_eq_some_iff.mpr ⟨scope, found, made⟩
          rw [unrevised] at revised
          cases revised
      simp only [same]
      exact MemoryStore.insert_self (MemoryStore.lookup?_of_find? found)

theorem callsOf_visit (pass : Pass) (store : MemoryStore) (visit : Visit) :
    pass.callsOf store (.visit visit) = .get visit.key ::
      (visit.revised? pass.config (store.find? visit.key)).toList.map (.update .scope) := by
  simp only [callsOf, Visit.revised?]
  generalize (store.find? visit.key).map (revision pass.config visit.change) = outcome
  rcases outcome with _ | _ | _ | body <;> rfl

theorem run_heed {α : Type} (operation : String) (next : Dialogue α) (store : MemoryStore) :
    (Dialogue.heed operation next).run MemoryStore.world store =
      next.run MemoryStore.world store :=
  rfl

theorem run_call_ok {call : Call} {value : call.Answer} {store after : MemoryStore}
    (answered : store.answer call = (.ok value, after)) (refused : StoreError → ApplyError) :
    (Dialogue.call call refused).run MemoryStore.world store =
      ⟨.ok value, [.called call (.ok value)], after⟩ := by
  change (⟨(store.answer call).1.mapError refused, [.called call (store.answer call).1],
    (store.answer call).2⟩ : Run MemoryStore call.Answer) = _
  rw [answered]
  rfl

theorem run_call_error {call : Call} {refusal : StoreError} {store after : MemoryStore}
    (answered : store.answer call = (.error refusal, after)) (refused : StoreError → ApplyError) :
    (Dialogue.call call refused).run MemoryStore.world store =
      ⟨.error (refused refusal), [.called call (.error refusal)], after⟩ := by
  change (⟨(store.answer call).1.mapError refused, [.called call (store.answer call).1],
    (store.answer call).2⟩ : Run MemoryStore call.Answer) = _
  rw [answered]
  rfl

def Performs (pass : Pass) (task : Task) (store : MemoryStore) (run : Run MemoryStore Unit) :
    Prop :=
  (pass.Ready store task → run.Goes (pass.callsOf store task) (pass.effect store task)) ∧
    (run.result = .ok () → pass.Ready store task)

theorem performs_of_failure {pass : Pass} {task : Task} {store : MemoryStore}
    {run : Run MemoryStore Unit} {error : ApplyError} (unready : ¬ pass.Ready store task)
    (failed : run.result = .error error) : pass.Performs task store run := by
  constructor
  · intro ready
    exact absurd ready unready
  · intro succeeded
    rw [failed] at succeeded
    cases succeeded

theorem answer_upsert_cases (role : Role) (body : Resource) (options : List ApplyOption)
    (store : MemoryStore) :
    (store.upsert body options = .ok (store.insert body) ∧
      store.answer (.upsert role body options) = (.ok (), store.insert body)) ∨
    ∃ refusal, store.upsert body options = .error refusal ∧
      store.answer (.upsert role body options) = (.error refusal, store) := by
  simp only [MemoryStore.answer]
  rcases store.upsert_cases body options with accepted | ⟨refusal, refused⟩
  · rw [accepted]
    exact .inl ⟨rfl, rfl⟩
  · rw [refused]
    exact .inr ⟨refusal, rfl, rfl⟩

theorem ready_iff_of_upserted {pass : Pass} {store : MemoryStore} {task : Task} {body : Resource}
    (upserts : task.upserted? store.traitDefinition = some body) :
    pass.Ready store task ↔ store.upsert body pass.options = .ok (store.insert body) := by
  cases task with
  | visit visit => cases upserts
  | _ => simp only [Ready, upserts, Option.some.injEq, exists_eq_left']

theorem not_ready_of_refused {pass : Pass} {store : MemoryStore} {task : Task} {body : Resource}
    {refusal : StoreError} (upserts : task.upserted? store.traitDefinition = some body)
    (refused : store.upsert body pass.options = .error refusal) : ¬ pass.Ready store task := by
  rw [ready_iff_of_upserted upserts, refused]
  intro impossible
  cases impossible

theorem effect_of_upserted {store : MemoryStore} {task : Task} {body : Resource}
    (upserts : task.upserted? store.traitDefinition = some body) (pass : Pass) :
    pass.effect store task = store.insert body := by
  cases task with
  | visit visit => cases upserts
  | _ => simp only [effect, upserts]

theorem run_present (pass : Pass) (workload : Workload) (store : MemoryStore) :
    pass.Performs (.present workload) store
      ((pass.perform (.present workload)).run MemoryStore.world store) := by
  simp only [perform, run_heed]
  rcases answer_upsert_cases .workload workload.body pass.options store with
    ⟨accepted, answered⟩ | ⟨refusal, refused, answered⟩
  · rw [run_call_ok answered]
    exact ⟨fun _ => ⟨rfl, rfl, rfl⟩, fun _ => ⟨_, rfl, accepted⟩⟩
  · rw [run_call_error answered]
    exact performs_of_failure (not_ready_of_refused rfl refused) rfl

theorem run_equip (pass : Pass) (workload : Reference) (body : Resource) (store : MemoryStore) :
    pass.Performs (.equip workload body) store
      ((pass.perform (.equip workload body)).run MemoryStore.world store) := by
  simp only [perform, applyTrait_eq, run_heed, Dialogue.run_bind]
  have unready (unequipped : Task.equipped? store.traitDefinition workload body = none) :
      ¬ pass.Ready store (.equip workload body) := by
    intro ready
    obtain ⟨equipped, its, -⟩ := ready
    cases its.symm.trans unequipped
  cases known : store.traitDefinition body.apiVersion body.kind with
  | error refusal =>
      have asked : store.answer (.traitDefinition body.apiVersion body.kind) =
          (.error refusal, store) := by
        simp only [MemoryStore.answer, known]
      rw [run_call_error asked]
      refine performs_of_failure (unready ?_) rfl
      simp only [Task.equipped?, known]
  | ok traitType =>
      have asked : store.answer (.traitDefinition body.apiVersion body.kind) =
          (.ok traitType, store) := by
        simp only [MemoryStore.answer, known]
      rw [run_call_ok asked]
      simp only [Run.andThen]
      cases failed : (body.inject traitType.injectionPath? workload).failure with
      | some error =>
          simp only [equip, failed]
          refine performs_of_failure (unready ?_) rfl
          simp only [Task.equipped?, known, failed]
      | none =>
          have upserts : (Task.equip workload body).upserted? store.traitDefinition =
              some (body.inject traitType.injectionPath? workload).resource := by
            simp only [Task.upserted?, Task.equipped?, known, failed]
          simp only [equip, failed, run_heed, Dialogue.run_bind]
          rcases answer_upsert_cases .trait (body.inject traitType.injectionPath? workload).resource
            pass.options store with ⟨accepted, answered⟩ | ⟨refusal, refused, answered⟩
          · rw [run_call_ok answered]
            refine ⟨fun _ => ⟨rfl, ?_, ?_⟩, fun _ => (ready_iff_of_upserted upserts).mpr accepted⟩
            · rw [Task.upserted?] at upserts
              simp only [callsOf, upserts]
              rfl
            · rw [effect_of_upserted upserts]
              rfl
          · rw [run_call_error answered]
            exact performs_of_failure (not_ready_of_refused upserts refused) rfl

theorem run_visit (pass : Pass) (visit : Visit) (store : MemoryStore) :
    pass.Performs (.visit visit) store
      ((pass.perform (.visit visit)).run MemoryStore.world store) := by
  have fetched : (pass.perform (.visit visit)).run MemoryStore.world store =
      ((visit.react pass.config (store.get visit.key)).ignore.run MemoryStore.world store).after
        (.called (.get visit.key) (store.get visit.key)) := by
    change (visit.dialogue pass.config).run MemoryStore.world store = _
    rw [visit.dialogue_eq]
    rfl
  rw [fetched]
  simp only [Performs, MemoryStore.get, Ready, Visit.Possible, effect, callsOf]
  cases found : store.find? visit.key with
  | none =>
      simp only [Visit.react]
      cases tolerated : visit.tolerates pass.config (.missing visit.key) with
      | true => exact ⟨fun _ => ⟨rfl, rfl, rfl⟩, fun _ => rfl⟩
      | false =>
          constructor
          · intro impossible
            cases impossible
          · intro impossible
            cases impossible
  | some scope =>
      simp only [Visit.react, Enrolment.edit_eq, visit.feasible_iff, Option.map_some, Visit.amend]
      cases revised : revision pass.config visit.change scope with
      | error error =>
          constructor
          · intro feasible
            obtain ⟨_, impossible⟩ := feasible
            cases impossible
          · intro impossible
            cases impossible
      | ok outcome =>
          cases outcome with
          | none =>
              refine ⟨fun _ => ⟨rfl, rfl, ?_⟩, fun _ => ⟨_, rfl⟩⟩
              exact (MemoryStore.insert_self (MemoryStore.lookup?_of_find? found)).symm
          | some body =>
              have same : body.key = scope.key :=
                Resource.key_eq_of_reference (Enrolment.reference_of_revision revised)
              have accepted : store.update body = .ok (store.insert body) :=
                MemoryStore.update_of_lookup?
                  (same ▸ MemoryStore.lookup?_of_find? found)
              have answered : store.answer (.update .scope body) = (.ok (), store.insert body) := by
                simp only [MemoryStore.answer, accepted]
              simp only [Dialogue.ignore, Dialogue.bind, run_heed, Dialogue.run_bind]
              rw [run_call_ok answered]
              exact ⟨fun _ => ⟨rfl, rfl, rfl⟩, fun _ => ⟨_, rfl⟩⟩

theorem run_perform (pass : Pass) (task : Task) (store : MemoryStore) :
    pass.Performs task store ((pass.perform task).run MemoryStore.world store) := by
  cases task with
  | present workload => exact pass.run_present workload store
  | equip workload body => exact pass.run_equip workload body store
  | visit visit => exact pass.run_visit visit store

/-! ### Lists of tasks -/

/-- Each task finds the store ready that the tasks before it leave. -/
def Smooth (pass : Pass) : MemoryStore → List Task → Prop
  | _, [] => True
  | store, task :: rest => pass.Ready store task ∧ pass.Smooth (pass.effect store task) rest

def after (pass : Pass) (store : MemoryStore) (tasks : List Task) : MemoryStore :=
  tasks.foldl pass.effect store

def callsOfAll (pass : Pass) : MemoryStore → List Task → List Call
  | _, [] => []
  | store, task :: rest =>
    pass.callsOf store task ++ pass.callsOfAll (pass.effect store task) rest

theorem smooth_iff {pass : Pass} {store : MemoryStore} {tasks : List Task} :
    pass.Smooth store tasks ↔ ∀ before task later, tasks = before ++ task :: later →
      pass.Ready (pass.after store before) task := by
  induction tasks generalizing store with
  | nil => simp [Smooth]
  | cons first rest ih =>
      rw [Smooth, ih]
      constructor
      · rintro ⟨ready, others⟩ before task later split
        cases before with
        | nil =>
            cases split
            exact ready
        | cons head before =>
            cases split
            exact others before task later rfl
      · intro ready
        refine ⟨ready [] first rest rfl, ?_⟩
        intro before task later split
        exact ready (first :: before) task later (by rw [split, List.cons_append])

theorem mem_callsOfAll_iff {pass : Pass} {store : MemoryStore} {tasks : List Task} {call : Call} :
    call ∈ pass.callsOfAll store tasks ↔ ∃ before task later, tasks = before ++ task :: later ∧
      call ∈ pass.callsOf (pass.after store before) task := by
  induction tasks generalizing store with
  | nil => simp [callsOfAll]
  | cons first rest ih =>
      rw [callsOfAll, List.mem_append, ih]
      constructor
      · intro made
        rcases made with here | ⟨before, task, later, split, there⟩
        · exact ⟨[], first, rest, rfl, here⟩
        · exact ⟨first :: before, task, later, by rw [split, List.cons_append], there⟩
      · intro made
        obtain ⟨before, task, later, split, made⟩ := made
        cases before with
        | nil =>
            cases split
            exact .inl made
        | cons head before =>
            cases split
            exact .inr ⟨before, task, later, rfl, made⟩

theorem run_each (pass : Pass) (tasks : List Task) (store : MemoryStore) :
    let run := (Dialogue.each pass.perform tasks).run MemoryStore.world store
    (pass.Smooth store tasks → run.Goes (pass.callsOfAll store tasks) (pass.after store tasks)) ∧
      (run.result = .ok () → pass.Smooth store tasks) := by
  induction tasks generalizing store with
  | nil => exact ⟨fun _ => ⟨rfl, rfl, rfl⟩, fun _ => trivial⟩
  | cons task rest ih =>
      simp only [Dialogue.each, Dialogue.run_bind]
      obtain ⟨goes, ready⟩ := pass.run_perform task store
      constructor
      · intro smooth
        obtain ⟨first, later⟩ := smooth
        obtain ⟨result, calls, left⟩ := goes first
        obtain ⟨result', calls', left'⟩ := (ih (pass.effect store task)).1 later
        rw [Run.andThen, result, left]
        refine ⟨result', ?_, left'⟩
        rw [callsOfAll, ← calls, ← calls']
        exact List.filterMap_append
      · intro succeeded
        cases result : ((pass.perform task).run MemoryStore.world store).result with
        | error error =>
            rw [Run.andThen, result] at succeeded
            cases succeeded
        | ok value =>
            obtain ⟨-, -, left⟩ := goes (ready result)
            rw [Run.andThen, result, left] at succeeded
            exact ⟨ready result, (ih _).2 succeeded⟩

theorem run_of_ignore {α : Type} {pass : Pass} {dialogue : Dialogue α} {tasks : List Task}
    (same : dialogue.ignore = Dialogue.each pass.perform tasks) (store : MemoryStore) :
    let run := dialogue.run MemoryStore.world store
    ((∃ value, run.result = .ok value) ↔ pass.Smooth store tasks) ∧
      (pass.Smooth store tasks →
        run.calls = pass.callsOfAll store tasks ∧ run.state = pass.after store tasks) := by
  intro run
  obtain ⟨goes, smooth⟩ := pass.run_each tasks store
  simp only [← same, Dialogue.run_ignore] at goes smooth
  refine ⟨⟨?_, ?_⟩, fun possible => (goes possible).2⟩
  · intro succeeded
    obtain ⟨value, succeeded⟩ := succeeded
    exact smooth (congrArg (Except.map fun _ => ()) succeeded)
  · intro possible
    obtain ⟨result, -, -⟩ := goes possible
    cases its : run.result with
    | error error =>
        simp only [run, its] at result
        cases result
    | ok value => exact ⟨value, rfl⟩

theorem state_of_ignore {α : Type} {pass : Pass} {dialogue : Dialogue α} {tasks : List Task}
    (same : dialogue.ignore = Dialogue.each pass.perform tasks) {store : MemoryStore} {value : α}
    (succeeded : (dialogue.run MemoryStore.world store).result = .ok value) :
    (dialogue.run MemoryStore.world store).state = pass.after store tasks := by
  obtain ⟨possible, goes⟩ := run_of_ignore same store
  exact (goes (possible.mp ⟨value, succeeded⟩)).2

/-- A pass succeeds if its tasks go smoothly, and then does what they do. -/
theorem run_ok_iff (pass : Pass) (request : Request) (store : MemoryStore) :
    (pass.run request MemoryStore.world store).result = .ok () ↔ pass.Smooth store pass.tasks := by
  obtain ⟨result, -, -⟩ := pass.run_tasks request MemoryStore.world store
  obtain ⟨goes, smooth⟩ := pass.run_each pass.tasks store
  rw [result]
  exact ⟨smooth, fun ready => (goes ready).1⟩

theorem run_of_smooth {pass : Pass} {store : MemoryStore}
    (smooth : pass.Smooth store pass.tasks) (request : Request) :
    (pass.run request MemoryStore.world store).Goes (pass.callsOfAll store pass.tasks)
      (pass.after store pass.tasks) := by
  obtain ⟨result, exchanges, left⟩ := pass.run_tasks request MemoryStore.world store
  obtain ⟨result', calls, left'⟩ := (pass.run_each pass.tasks store).1 smooth
  rw [Run.Goes, result, left, Run.calls_eq, exchanges, ← Run.calls_eq]
  exact ⟨result', calls, left'⟩

theorem definitions_effect (pass : Pass) (store : MemoryStore) (task : Task) :
    (pass.effect store task).definitions = store.definitions := by
  unfold effect
  split
  · split <;> rfl
  · split <;> rfl

theorem definitions_after (pass : Pass) (store : MemoryStore) (tasks : List Task) :
    (pass.after store tasks).definitions = store.definitions := by
  induction tasks generalizing store with
  | nil => rfl
  | cons task rest ih => exact (ih _).trans (pass.definitions_effect store task)

theorem traitDefinition_effect (pass : Pass) (store : MemoryStore) (task : Task) :
    (pass.effect store task).traitDefinition = store.traitDefinition := by
  funext apiVersion kind
  simp only [MemoryStore.traitDefinition, definitions_effect]

theorem traitDefinition_after (pass : Pass) (store : MemoryStore) (tasks : List Task) :
    (pass.after store tasks).traitDefinition = store.traitDefinition := by
  funext apiVersion kind
  simp only [MemoryStore.traitDefinition, definitions_after]

theorem get_mem_callsOfAll {pass : Pass} {visit : Visit} {tasks : List Task}
    (planned : .visit visit ∈ tasks) (store : MemoryStore) :
    .get visit.key ∈ pass.callsOfAll store tasks := by
  obtain ⟨before, later, split⟩ := List.append_of_mem planned
  exact mem_callsOfAll_iff.mpr ⟨before, _, later, split, List.mem_cons_self⟩

theorem upsert_mem_callsOfAll (pass : Pass) {task : Task} {tasks : List Task} {body : Resource}
    (planned : task ∈ tasks) {store : MemoryStore}
    (upserts : task.upserted? store.traitDefinition = some body) :
    ∃ role, .upsert role body pass.options ∈ pass.callsOfAll store tasks := by
  obtain ⟨before, later, split⟩ := List.append_of_mem planned
  rw [← pass.traitDefinition_after store before] at upserts
  have made : ∃ role, .upsert role body pass.options ∈
      pass.callsOf (pass.after store before) task := by
    cases task with
    | present workload =>
        cases upserts
        exact ⟨.workload, List.mem_cons_self⟩
    | equip workload trait =>
        simp only [Task.upserted?] at upserts
        exact ⟨.trait, by simp [callsOf, upserts]⟩
    | visit visit => cases upserts
  obtain ⟨role, made⟩ := made
  exact ⟨role, mem_callsOfAll_iff.mpr ⟨before, task, later, split, made⟩⟩

end Pass

structure Task.Apart (types : TraitTypes) (tasks : List Task) : Prop where
  placed : ∀ visit, .visit visit ∈ tasks → visit.key.Placed
  apart : ∀ task ∈ tasks, ∀ body, task.upserted? types = some body →
    ∀ visit, .visit visit ∈ tasks → body.key ≠ visit.key.storeKey

def Call.Writes (key : Key) : Call → Prop
  | .upsert _ body _ => body.key = key
  | .update _ body => body.key = key
  | _ => False

instance (key : Key) (call : Call) : Decidable (call.Writes key) := by
  cases call <;> unfold Call.Writes <;> infer_instance

theorem MemoryStore.lookup?_answer_of_not_writes {call : Call} {key : Key}
    (apart : ¬ call.Writes key) (store : MemoryStore) :
    (store.answer call).2.lookup? key = store.lookup? key := by
  cases call with
  | upsert role body options =>
      rcases Pass.answer_upsert_cases role body options store with
        ⟨-, answered⟩ | ⟨refusal, -, answered⟩
      · rw [answered]
        exact lookup?_insert_of_ne apart store
      · rw [answered]
  | get reference => rfl
  | update role body =>
      simp only [answer, update]
      cases store.lookup? body.key with
      | none => rfl
      | some old => exact lookup?_insert_of_ne apart store
  | traitDefinition apiVersion kind => rfl

def Call.Clear (upsert fetch : Call) : Prop :=
  match upsert, fetch with
  | .upsert _ body _, .get key => ¬ Key.Names key body.key
  | _, _ => True

instance (upsert fetch : Call) : Decidable (upsert.Clear fetch) := by
  cases upsert <;> cases fetch <;> unfold Call.Clear <;> infer_instance

/-- No object that is upserted in the run has the key of a scope that is visited in it. -/
def Run.Separate {State α : Type} (run : Run State α) : Prop :=
  ∀ upsert ∈ run.calls, ∀ fetch ∈ run.calls, upsert.Clear fetch

instance {State α : Type} (run : Run State α) : Decidable run.Separate := by
  unfold Run.Separate; infer_instance

namespace Pass

theorem apart_of_separate {pass : Pass} {store : MemoryStore} {request : Request}
    (placed : ∀ visit, .visit visit ∈ pass.tasks → visit.key.Placed)
    (smooth : pass.Smooth store pass.tasks)
    (separate : (pass.run request MemoryStore.world store).Separate) :
    Task.Apart store.traitDefinition pass.tasks := by
  refine ⟨placed, ?_⟩
  intro task planned body upserts visit visited same
  obtain ⟨-, calls, -⟩ := run_of_smooth smooth request
  rw [Run.Separate, calls] at separate
  obtain ⟨role, made⟩ := pass.upsert_mem_callsOfAll planned upserts
  have clear := separate _ made _ (get_mem_callsOfAll visited store)
  exact clear (((placed visit visited).names_iff body.key).mpr same)

end Pass

end Rollout
