import Rollout.Engine.Apply
import Rollout.Engine.Dialogue.Laws
import Rollout.Proofs.Revision

/-! A pass as a list of tasks. But for what it tells the log, a pass is its tasks one after
another: an upsert, a trait, or a visit to a scope. The list is known from the input alone. -/

set_option autoImplicit false

namespace Rollout

namespace Dialogue

variable {α β γ : Type}

def quiet : Dialogue α → Dialogue α
  | .done result => .done result
  | .heed operation next => .heed operation next.quiet
  | .ask call next => .ask call fun reply => (next reply).quiet
  | .note _ next => next.quiet

theorem quiet_bind (first : Dialogue α) (second : α → Dialogue β) :
    (first.bind second).quiet = first.quiet.bind fun value => (second value).quiet := by
  induction first with
  | done result => cases result <;> rfl
  | heed operation next ih => simp only [bind, quiet, ih]
  | ask call next ih => simp only [bind, quiet, ih]
  | note event next ih => exact ih

def ignore (dialogue : Dialogue α) : Dialogue Unit :=
  dialogue.bind fun _ => .done (.ok ())

theorem ignore_bind (first : Dialogue α) (second : α → Dialogue β) :
    (first.bind second).ignore = first.bind fun value => (second value).ignore :=
  bind_assoc first second _

theorem bind_ignore (first : Dialogue α) (second : Dialogue β) :
    first.ignore.bind (fun _ => second) = first.bind fun _ => second :=
  bind_assoc first _ _

theorem each_append (step : α → Dialogue Unit) (first second : List α) :
    each step (first ++ second) = (each step first).bind fun _ => each step second := by
  induction first with
  | nil => rfl
  | cons item rest ih => simp only [List.cons_append, each, ih, bind_assoc]

theorem each_map (step : β → Dialogue Unit) (place : α → β) (items : List α) :
    each step (items.map place) = each (fun item => step (place item)) items := by
  induction items with
  | nil => rfl
  | cons item rest ih => simp only [List.map_cons, each, ih]

theorem each_flatMap (step : β → Dialogue Unit) (parts : α → List β) (items : List α) :
    each step (items.flatMap parts) = each (fun item => each step (parts item)) items := by
  induction items with
  | nil => rfl
  | cons item rest ih => simp only [List.flatMap_cons, each_append, each, ih]

theorem quiet_each (step : α → Dialogue Unit) (items : List α) :
    (each step items).quiet = each (fun item => (step item).quiet) items := by
  induction items with
  | nil => rfl
  | cons item rest ih => simp only [each, quiet_bind, ih]

theorem ignore_select (step : α → Dialogue Bool) (items : List α) :
    (select step items).ignore = each (fun item => (step item).ignore) items := by
  induction items with
  | nil => rfl
  | cons item rest ih =>
      simp only [select, each, ← ih, ignore_bind]
      exact (bind_ignore (step item) (select step rest).ignore).symm

end Dialogue

abbrev Exchange := (call : Call) × call.Reply

namespace Run

variable {State α β : Type}

def exchanges (run : Run State α) : List Exchange :=
  run.transcript.filterMap fun
    | .called call reply => some ⟨call, reply⟩
    | .noted _ => none

theorem calls_eq (run : Run State α) : run.calls = run.exchanges.map (·.1) := by
  unfold calls exchanges
  rw [List.map_filterMap]
  congr 1
  funext entry
  cases entry <;> rfl

/-- What a run makes known when its events are left out. -/
def Silently (first second : Run State α) : Prop :=
  first.result = second.result ∧ first.exchanges = second.exchanges ∧ first.state = second.state

end Run

namespace Dialogue

variable {State α β : Type}

theorem run_quiet (world : World State) (dialogue : Dialogue α) (state : State) :
    (dialogue.quiet.run world state).Silently (dialogue.run world state) := by
  induction dialogue generalizing state with
  | done result => exact ⟨rfl, rfl, rfl⟩
  | note event next ih => exact ih state
  | heed operation next ih =>
      simp only [quiet, run]
      cases world.stopped? state with
      | some reason => exact ⟨rfl, rfl, rfl⟩
      | none => exact ih state
  | ask call next ih =>
      obtain ⟨result, exchanges, left⟩ :=
        ih (world.answer call state).1 (world.answer call state).2
      exact ⟨result, congrArg (List.cons _) exchanges, left⟩

theorem run_eq_of_quiet {first second : Dialogue α} (same : first.quiet = second.quiet)
    (world : World State) (state : State) :
    (first.run world state).Silently (second.run world state) := by
  have one := run_quiet world first state
  have other := run_quiet world second state
  rw [same] at one
  exact ⟨one.1.symm.trans other.1, one.2.1.symm.trans other.2.1, one.2.2.symm.trans other.2.2⟩

theorem run_ignore (world : World State) (dialogue : Dialogue α) (state : State) :
    dialogue.ignore.run world state =
      { dialogue.run world state with
        result := (dialogue.run world state).result.map fun _ => () } := by
  rw [ignore, run_bind, Run.andThen]
  cases (dialogue.run world state).result with
  | error error => rfl
  | ok value => simp only [run, List.append_nil, Except.map]

end Dialogue

namespace Enrolment

def Visit.dialogue (config : Config) (visit : Visit) : Dialogue Unit :=
  if visit.joins then (add config visit.member visit.key).ignore
  else (remove config visit.member visit.key).ignore

def Visit.tolerates (config : Config) (visit : Visit) (refusal : StoreError) : Bool :=
  !visit.joins && (refusal.isNotFound && config.ignoreMissingScopeOnRemoval)

def Visit.unchanged (visit : Visit) : Event :=
  if visit.joins then .alreadyMember visit.key visit.member else .notMember visit.key visit.member

def Visit.react (config : Config) (visit : Visit) : (Call.get visit.key).Reply → Dialogue Bool
  | .ok scope => edit config visit.key visit.member scope visit.change visit.unchanged
  | .error refusal =>
    if visit.tolerates config refusal then
      .note (.scopeGone visit.key visit.member) (.done (.ok false))
    else .fail (.getScope visit.key visit.member refusal)

/-- Fetches the scope and changes its list, and says whether there was anything to change. -/
def Visit.attempt (config : Config) (visit : Visit) : Dialogue Bool :=
  .heed "get_scope" (.ask (.get visit.key) (visit.react config))

theorem add_eq (config : Config) (member key : Reference) :
    add config member key = (⟨true, member, key⟩ : Visit).attempt config := by
  unfold Visit.attempt
  change Dialogue.heed "get_scope" (.ask (.get key) _) = _
  congr 2
  funext reply
  cases reply <;> rfl

theorem remove_eq (config : Config) (member key : Reference) :
    remove config member key = (⟨false, member, key⟩ : Visit).attempt config := by
  unfold Visit.attempt
  change Dialogue.heed "get_scope" (.ask (.get key) _) = _
  congr 2
  funext reply
  cases reply <;> rfl

theorem Visit.dialogue_eq (config : Config) (visit : Visit) :
    visit.dialogue config = (visit.attempt config).ignore := by
  obtain ⟨joins, member, key⟩ := visit
  cases joins with
  | true => exact congrArg Dialogue.ignore (add_eq config member key)
  | false => exact congrArg Dialogue.ignore (remove_eq config member key)

def visits (member : Reference) (plan : ScopePlan) : List Visit :=
  plan.toAdd.map (fun key => ⟨true, member, key⟩) ++
    plan.toRemove.map fun key => ⟨false, member, key⟩

theorem mem_visits_iff (member : Reference) (plan : ScopePlan) (visit : Visit) :
    visit ∈ visits member plan ↔
      visit.member = member ∧
        (visit.joins = true ∧ visit.key ∈ plan.toAdd ∨
          visit.joins = false ∧ visit.key ∈ plan.toRemove) := by
  obtain ⟨joins, own, key⟩ := visit
  simp only [visits, List.mem_append, List.mem_map, Visit.mk.injEq]
  constructor
  · intro planned
    rcases planned with ⟨_, present, rfl, rfl, rfl⟩ | ⟨_, present, rfl, rfl, rfl⟩
    · exact ⟨rfl, .inl ⟨rfl, present⟩⟩
    · exact ⟨rfl, .inr ⟨rfl, present⟩⟩
  · intro planned
    rcases planned with ⟨rfl, ⟨rfl, present⟩ | ⟨rfl, present⟩⟩
    · exact .inl ⟨key, present, rfl, rfl, rfl⟩
    · exact .inr ⟨key, present, rfl, rfl, rfl⟩

theorem ignore_carryOut (config : Config) (member : Reference) (plan : ScopePlan) :
    (carryOut config member plan).ignore = .each (Visit.dialogue config) (visits member plan) := by
  have joining : Dialogue.each (Visit.dialogue config)
      (plan.toAdd.map fun key => ⟨true, member, key⟩) =
      (Dialogue.select (add config member) plan.toAdd).ignore := by
    rw [Dialogue.each_map, Dialogue.ignore_select]
    rfl
  have leaving : Dialogue.each (Visit.dialogue config)
      (plan.toRemove.map fun key => ⟨false, member, key⟩) =
      (Dialogue.select (remove config member) plan.toRemove).ignore := by
    rw [Dialogue.each_map, Dialogue.ignore_select]
    rfl
  rw [visits, Dialogue.each_append, joining, leaving, Dialogue.bind_ignore]
  change (Dialogue.bind _ fun added => Dialogue.bind _ fun removed =>
    Dialogue.done (.ok { added := added, removed := removed : Changes })).ignore = _
  simp only [Dialogue.ignore_bind]
  rfl

end Enrolment

inductive Task where
  | present (workload : Workload)
  | equip (workload : Reference) (body : Resource)
  | visit (visit : Enrolment.Visit)
  deriving DecidableEq

def Task.visit? : Task → Option Enrolment.Visit
  | .visit planned => some planned
  | _ => none

theorem Task.visit?_eq_some_iff {task : Task} {visit : Enrolment.Visit} :
    task.visit? = some visit ↔ task = .visit visit := by
  cases task <;> simp [visit?]

theorem WorkloadStatus.matches_of_find? {statuses : List WorkloadStatus} {workload : Reference}
    {status : WorkloadStatus} (found : find? statuses workload = some status) :
    status ∈ statuses ∧ status.reference.Matches workload := by
  unfold find? at found
  exact ⟨List.mem_of_find?_eq_some found, by simpa using List.find?_some found⟩

namespace Pass

def perform (pass : Pass) : Task → Dialogue Unit
  | .present workload =>
    .heed "apply_workload"
      (.call (.upsert .workload workload.body pass.options) fun refusal =>
        .applyWorkload workload.body.name refusal)
  | .equip workload body => pass.applyTrait workload body
  | .visit visit => visit.dialogue pass.config

def equip (pass : Pass) (workload : Reference) (body : Resource) (traitType : TraitType) :
    Dialogue Unit :=
  let injected := body.inject traitType.injectionPath? workload
  match injected.failure with
  | some error => .fail (.applyTrait body.apiVersion body.kind body.name (.attribute error))
  | none =>
    .heed "apply_trait"
      ((Dialogue.call (.upsert .trait injected.resource pass.options) fun refusal =>
        .applyTrait body.apiVersion body.kind body.name (.store refusal)).bind fun _ =>
        .tell (.traitApplied workload body.name traitType.injectionPath?.isSome))

theorem applyTrait_eq (pass : Pass) (workload : Reference) (body : Resource) :
    pass.applyTrait workload body =
      .heed "get_trait_definition"
        ((Dialogue.call (.traitDefinition body.apiVersion body.kind) fun refusal =>
          .getTraitDefinition body.apiVersion body.kind body.name refusal).bind
            (pass.equip workload body)) := rfl

theorem orphan_eq (pass : Pass) (status : WorkloadStatus) :
    pass.orphan status = { status.reference with
      space? := status.reference.space? <|>
        pass.workloads.findSome? fun workload => workload.body.space? } := rfl

def plan (pass : Pass) (workload : Workload) : ScopePlan :=
  ScopePlan.of workload.reference workload.scopes (pass.recordedScopes workload.reference)

def orphanPlan (pass : Pass) (status : WorkloadStatus) : ScopePlan :=
  ScopePlan.of (pass.orphan status) [] status.scopeReferences

def workloadTasks (pass : Pass) (workload : Workload) : List Task :=
  .present workload :: workload.traits.map (.equip workload.reference) ++
    (Enrolment.visits workload.reference (pass.plan workload)).map .visit

def orphanTasks (pass : Pass) (status : WorkloadStatus) : List Task :=
  (Enrolment.visits (pass.orphan status) (pass.orphanPlan status)).map .visit

def orphans (pass : Pass) : List WorkloadStatus :=
  if pass.config.dereferenceOrphanedWorkloads then
    pass.recorded.filter fun status => pass.IsOrphan status
  else []

def tasks (pass : Pass) : List Task :=
  pass.workloads.flatMap pass.workloadTasks ++ pass.orphans.flatMap pass.orphanTasks

def visits (pass : Pass) : List Enrolment.Visit := pass.tasks.filterMap Task.visit?

theorem mem_visits_iff (pass : Pass) (visit : Enrolment.Visit) :
    visit ∈ pass.visits ↔ .visit visit ∈ pass.tasks := by
  simp only [visits, List.mem_filterMap, Task.visit?_eq_some_iff, exists_eq_right]

theorem visit_mem_workloadTasks_iff (pass : Pass) (workload : Workload) (visit : Enrolment.Visit) :
    .visit visit ∈ pass.workloadTasks workload ↔
      visit.member = workload.reference ∧
        (visit.joins = true ∧ visit.key ∈ (pass.plan workload).toAdd ∨
          visit.joins = false ∧ visit.key ∈ (pass.plan workload).toRemove) := by
  simp only [workloadTasks, List.mem_append, List.mem_cons, List.mem_map, reduceCtorEq, false_or,
    and_false, exists_false, Task.visit.injEq, exists_eq_right, Enrolment.mem_visits_iff]

theorem visit_mem_orphanTasks_iff (pass : Pass) (status : WorkloadStatus)
    (visit : Enrolment.Visit) :
    .visit visit ∈ pass.orphanTasks status ↔
      visit.member = pass.orphan status ∧ visit.joins = false ∧
        visit.key ∈ (pass.orphanPlan status).toRemove := by
  have nothingToJoin : (pass.orphanPlan status).toAdd = [] := rfl
  simp only [orphanTasks, List.mem_map, Task.visit.injEq, exists_eq_right,
    Enrolment.mem_visits_iff, nothingToJoin, List.not_mem_nil, and_false, false_or]

/-- Visits are made to join what a workload desires, and to leave what was recorded for a
workload or for an orphan. -/
theorem visit_mem_tasks_iff (pass : Pass) (visit : Enrolment.Visit) :
    .visit visit ∈ pass.tasks ↔
      (∃ workload ∈ pass.workloads, visit.member = workload.reference ∧
        (visit.joins = true ∧ visit.key ∈ (pass.plan workload).toAdd ∨
          visit.joins = false ∧ visit.key ∈ (pass.plan workload).toRemove)) ∨
        ∃ status ∈ pass.orphans, visit.member = pass.orphan status ∧ visit.joins = false ∧
          visit.key ∈ (pass.orphanPlan status).toRemove := by
  simp only [tasks, List.mem_append, List.mem_flatMap, visit_mem_workloadTasks_iff,
    visit_mem_orphanTasks_iff]

theorem present_mem_tasks_iff (pass : Pass) (workload : Workload) :
    .present workload ∈ pass.tasks ↔ workload ∈ pass.workloads := by
  simp [tasks, workloadTasks, orphanTasks]

theorem equip_mem_tasks_iff (pass : Pass) (reference : Reference) (body : Resource) :
    .equip reference body ∈ pass.tasks ↔
      ∃ workload ∈ pass.workloads, body ∈ workload.traits ∧ workload.reference = reference := by
  simp [tasks, workloadTasks, orphanTasks]

theorem mem_orphans_iff (pass : Pass) (status : WorkloadStatus) :
    status ∈ pass.orphans ↔ pass.config.dereferenceOrphanedWorkloads = true ∧
      status ∈ pass.recorded ∧ pass.IsOrphan status := by
  unfold orphans
  split
  next dereferences => simp [dereferences]
  next keeps => simp [keeps]

theorem exists_status_of_recorded {pass : Pass} {workload scope : Reference}
    (known : scope ∈ pass.recordedScopes workload) :
    ∃ status ∈ pass.recorded, status.reference.Matches workload ∧
      scope ∈ status.scopeReferences := by
  unfold recordedScopes at known
  cases found : WorkloadStatus.find? pass.recorded workload with
  | none => simp [found] at known
  | some status =>
      rw [found] at known
      obtain ⟨recorded, matching⟩ := WorkloadStatus.matches_of_find? found
      exact ⟨status, recorded, matching, known⟩

theorem quiet_applyWorkload (pass : Pass) (workload : Workload) :
    (pass.applyWorkload workload).quiet =
      (Dialogue.each pass.perform (pass.workloadTasks workload)).quiet := by
  have scopes : Dialogue.each pass.perform
      ((Enrolment.visits workload.reference (pass.plan workload)).map .visit) =
      (Enrolment.carryOut pass.config workload.reference (pass.plan workload)).ignore := by
    rw [Dialogue.each_map, Enrolment.ignore_carryOut]
    rfl
  have traits : Dialogue.each pass.perform (workload.traits.map (.equip workload.reference)) =
      .each (pass.applyTrait workload.reference) workload.traits :=
    Dialogue.each_map _ _ _
  rw [workloadTasks, Dialogue.each_append, Dialogue.each, traits, scopes]
  change ((Dialogue.tell _).bind fun _ => (pass.perform (.present workload)).bind fun _ =>
    (Dialogue.each (pass.applyTrait workload.reference) workload.traits).bind fun _ =>
      (Enrolment.carryOut pass.config workload.reference (pass.plan workload)).bind fun changes =>
        Dialogue.tell (.workloadEnded workload.reference changes.added.length
          changes.removed.length)).quiet = _
  simp only [Dialogue.quiet_bind, Dialogue.ignore, Dialogue.bind_assoc]
  rfl

theorem quiet_dereferenceOrphan (pass : Pass) (status : WorkloadStatus) :
    (pass.dereferenceOrphan status).quiet =
      (Dialogue.each pass.perform (pass.orphanTasks status)).quiet := by
  have scopes : Dialogue.each pass.perform (pass.orphanTasks status) =
      (Enrolment.carryOut pass.config (pass.orphan status) (pass.orphanPlan status)).ignore := by
    rw [orphanTasks, Dialogue.each_map, Enrolment.ignore_carryOut]
    rfl
  rw [scopes, Dialogue.ignore, Dialogue.quiet_bind]
  exact Dialogue.quiet_bind _ _

theorem dialogue_eq (pass : Pass) :
    pass.dialogue = (Dialogue.each pass.applyWorkload pass.workloads).bind fun _ =>
      .each pass.dereferenceOrphan pass.orphans := by
  have orphaned : (if pass.config.dereferenceOrphanedWorkloads = true then pass.dereferenceOrphans
      else pure PUnit.unit : Dialogue Unit) = .each pass.dereferenceOrphan pass.orphans := by
    unfold orphans
    split <;> rfl
  rw [dialogue, orphaned]
  rfl

/-- But for its events, a pass is its tasks one after another. -/
theorem quiet_dialogue (pass : Pass) :
    pass.dialogue.quiet = (Dialogue.each pass.perform pass.tasks).quiet := by
  rw [dialogue_eq, tasks, Dialogue.each_append, Dialogue.each_flatMap, Dialogue.each_flatMap]
  simp only [Dialogue.quiet_bind, Dialogue.quiet_each, quiet_applyWorkload, quiet_dereferenceOrphan]

theorem exchanges_run {State : Type} (pass : Pass) (request : Request) (world : World State)
    (state : State) :
    (pass.run request world state).exchanges = (pass.dialogue.run world state).exchanges := by
  simp [run, Run.exchanges]

/-- A pass that runs in a world gives the result, the calls with their replies, and the state
that its tasks give. -/
theorem run_tasks {State : Type} (pass : Pass) (request : Request) (world : World State)
    (state : State) :
    (pass.run request world state).Silently
      ((Dialogue.each pass.perform pass.tasks).run world state) := by
  obtain ⟨result, exchanges, left⟩ := Dialogue.run_eq_of_quiet pass.quiet_dialogue world state
  exact ⟨result, (pass.exchanges_run request world state).trans exchanges, left⟩

end Pass

end Rollout
