import Rollout.Proofs.Tasks

/-! The journal of a pass. What it tells the log goes with what it does: the pass is framed by its
start and its end, each workload that is attempted has a chapter of its own, which is closed if all
of its steps succeed, and each scope that is fetched is either written or skipped. -/

set_option autoImplicit false

namespace Rollout

/-- What belongs to a step on the way, and neither begins nor ends a pass or a workload. -/
def Event.IsStep (event : Event) : Prop :=
  event.record.operation? ≠ some "apply" ∧ event.record.operation? ≠ some "apply_workload"

theorem Event.isStep_of_operation {event : Event} {operation : String}
    (names : event.record.operation? = some operation) (other : operation ≠ "apply")
    (another : operation ≠ "apply_workload") : event.IsStep := by
  rw [IsStep, names, Ne, Option.some.injEq, Ne, Option.some.injEq]
  exact ⟨other, another⟩

structure Log.Record.Frames (record : Log.Record) (request : Request) (event : String) : Prop where
  operation : record.operation? = some "apply"
  event : record.event? = some event
  requestId : record.field? "request_id" = some request.requestId
  traceId : record.field? "trace_id" = request.traceId?

structure Log.Record.Opens (record : Log.Record) (workload : Workload) : Prop where
  operation : record.operation? = some "apply_workload"
  event : record.event? = some "start"
  name : record.field? "workload" = some workload.body.name
  traits : record.field? "trait_count" = some (Text.decimal workload.traits.length)
  scopes : record.field? "scope_count" = some (Text.decimal workload.scopes.length)

structure Log.Record.Closes (record : Log.Record) (workload : Workload) (added removed : Nat) :
    Prop where
  operation : record.operation? = some "apply_workload"
  event : record.event? = some "end"
  name : record.field? "workload" = some workload.body.name
  added : record.field? "scopes_added" = some (Text.decimal added)
  removed : record.field? "scopes_removed" = some (Text.decimal removed)

namespace Dialogue

variable {State α β : Type} {allowed : Event → Prop}

/-- All that the dialogue may tell the log is allowed. -/
def TellsOnly (allowed : Event → Prop) : Dialogue α → Prop
  | .done _ => True
  | .heed _ next => next.TellsOnly allowed
  | .ask _ next => ∀ reply, (next reply).TellsOnly allowed
  | .note event next => allowed event ∧ next.TellsOnly allowed

theorem tellsOnly_bind {first : Dialogue α} {second : α → Dialogue β}
    (one : first.TellsOnly allowed) (two : ∀ value, (second value).TellsOnly allowed) :
    (first.bind second).TellsOnly allowed := by
  induction first with
  | done result =>
      cases result with
      | ok value => exact two value
      | error error => trivial
  | heed operation next ih => exact ih one
  | ask call next ih =>
      intro reply
      exact ih reply (one reply)
  | note event next ih => exact ⟨one.1, ih one.2⟩

theorem tellsOnly_each {step : α → Dialogue Unit} (each : ∀ item, (step item).TellsOnly allowed)
    (items : List α) : (Dialogue.each step items).TellsOnly allowed := by
  induction items with
  | nil => trivial
  | cons item rest ih => exact tellsOnly_bind (each item) fun _ => ih

theorem tellsOnly_select {step : α → Dialogue Bool} (each : ∀ item, (step item).TellsOnly allowed)
    (items : List α) : (Dialogue.select step items).TellsOnly allowed := by
  induction items with
  | nil => trivial
  | cons item rest ih =>
      exact tellsOnly_bind (each item) fun _ => tellsOnly_bind ih fun _ => trivial

theorem allowed_of_tellsOnly (world : World State) {dialogue : Dialogue α}
    (tells : dialogue.TellsOnly allowed) (state : State) {event : Event}
    (told : .noted event ∈ (dialogue.run world state).transcript) : allowed event := by
  induction dialogue generalizing state with
  | done result => cases told
  | note first next ih =>
      rcases List.mem_cons.mp told with same | later
      · cases same
        exact tells.1
      · exact ih tells.2 state later
  | heed operation next ih =>
      simp only [run] at told
      cases stopped : world.stopped? state with
      | some reason =>
          rw [stopped] at told
          cases told
      | none =>
          rw [stopped] at told
          exact ih tells state told
  | ask call next ih =>
      rcases List.mem_cons.mp told with impossible | later
      · cases impossible
      · exact ih _ (tells _) _ later

/-- Whenever the dialogue succeeds, in whatever world, the postcondition holds of its value and of
what is entered on the way. -/
def Ensures (dialogue : Dialogue α) (post : α → List Entry → Prop) : Prop :=
  ∀ (State : Type) (world : World State) (state : State) (value : α),
    (dialogue.run world state).result = .ok value →
      post value (dialogue.run world state).transcript

theorem Ensures.done {value : α} {post : α → List Entry → Prop} (holds : post value []) :
    (Dialogue.done (.ok value)).Ensures post := by
  intro State world state other succeeded
  cases succeeded
  exact holds

theorem Ensures.fail (error : ApplyError) (post : α → List Entry → Prop) :
    (Dialogue.fail error).Ensures post := nofun

theorem Ensures.note {event : Event} {next : Dialogue α} {post : α → List Entry → Prop}
    (later : next.Ensures fun value entries => post value (.noted event :: entries)) :
    (Dialogue.note event next).Ensures post :=
  fun State world state value succeeded => later State world state value succeeded

theorem Ensures.heed {operation : String} {next : Dialogue α} {post : α → List Entry → Prop}
    (later : next.Ensures post) : (Dialogue.heed operation next).Ensures post := by
  intro State world state value succeeded
  simp only [run] at succeeded ⊢
  cases stopped : world.stopped? state with
  | some reason =>
      rw [stopped] at succeeded
      cases succeeded
  | none =>
      rw [stopped] at succeeded
      exact later State world state value succeeded

theorem Ensures.ask {call : Call} {next : call.Reply → Dialogue α}
    {post : α → List Entry → Prop}
    (later : ∀ reply, (next reply).Ensures fun value entries =>
      post value (.called call reply :: entries)) : (Dialogue.ask call next).Ensures post :=
  fun State world _ value succeeded => later _ State world _ value succeeded

theorem Ensures.call {call : Call} {refused : StoreError → ApplyError}
    {post : call.Answer → List Entry → Prop}
    (answered : ∀ answer, post answer [.called call (.ok answer)]) :
    (Dialogue.call call refused).Ensures post := by
  apply Ensures.ask
  intro reply
  cases reply with
  | ok answer => exact .done (answered answer)
  | error refusal => exact .fail (refused refusal) _

theorem Ensures.bind {first : Dialogue α} {second : α → Dialogue β}
    {early : α → List Entry → Prop} {late : α → β → List Entry → Prop}
    {post : β → List Entry → Prop} (one : first.Ensures early)
    (two : ∀ value, (second value).Ensures (late value))
    (join : ∀ value last before after, early value before → late value last after →
      post last (before ++ after)) : (first.bind second).Ensures post := by
  intro State world state last succeeded
  rw [run_bind, Run.andThen] at succeeded ⊢
  cases outcome : (first.run world state).result with
  | error error =>
      rw [outcome] at succeeded
      cases succeeded
  | ok value =>
      rw [outcome] at succeeded
      exact join value last _ _ (one State world state value outcome)
        (two value State world _ last succeeded)

theorem Ensures.map {first : Dialogue α} {place : α → β} {early : α → List Entry → Prop}
    {post : β → List Entry → Prop} (one : first.Ensures early)
    (follows : ∀ value entries, early value entries → post (place value) entries) :
    (first.bind fun value => .done (.ok (place value))).Ensures post := by
  have placed (value : α) : (Dialogue.done (.ok (place value))).Ensures
      fun last entries => last = place value ∧ entries = [] := .done ⟨rfl, rfl⟩
  refine one.bind placed ?_
  intro value last before after holds finished
  obtain ⟨rfl, rfl⟩ := finished
  rw [List.append_nil]
  exact follows value before holds

theorem Ensures.mono {dialogue : Dialogue α} {post weaker : α → List Entry → Prop}
    (ensures : dialogue.Ensures post)
    (follows : ∀ value entries, post value entries → weaker value entries) :
    dialogue.Ensures weaker :=
  fun State world state value succeeded =>
    follows value _ (ensures State world state value succeeded)

theorem Ensures.each {step : α → Dialogue Unit} {holds : List Entry → Prop} (nothing : holds [])
    (join : ∀ before after, holds before → holds after → holds (before ++ after))
    (each : ∀ item, (step item).Ensures fun _ => holds) (items : List α) :
    (Dialogue.each step items).Ensures fun _ => holds := by
  induction items with
  | nil => exact .done nothing
  | cons item rest ih => exact (each item).bind (fun _ => ih) fun _ _ => join

end Dialogue

/-! ### Fetches and what comes of them -/

/-- The event says that the scope under the key is left alone. -/
def Event.Skips (event : Event) (key : Reference) : Prop :=
  event.record.event? = some "skip" ∧ event.record.field? "scope" = some key.text

namespace Entry

def isUpdate : Entry → Bool
  | .called (.update _ _) _ => true
  | _ => false

/-- Neither a fetch of a scope nor what may come of one. -/
def IsPlain : Entry → Prop
  | .called (.get _) _ => False
  | .called (.update _ _) _ => False
  | .called _ _ => True
  | .noted event => event.record.event? ≠ some "skip"

def exchange? : Entry → Option Exchange
  | .called call reply => some ⟨call, reply⟩
  | .noted _ => none

end Entry

/-- Each fetch is followed at once by the update of a scope or by word that the scope is skipped,
and there is no other update and no other such word. A scope that is missing is skipped if the
settings say so. -/
inductive Paired (config : Config) : List Entry → Prop where
  | nothing : Paired config []
  | other {entry : Entry} {rest : List Entry} (plain : entry.IsPlain) (later : Paired config rest) :
      Paired config (entry :: rest)
  | written {key : Reference} {scope body : Resource} {rest : List Entry}
      (later : Paired config rest) :
      Paired config
        (.called (.get key) (.ok scope) :: .called (.update .scope body) (.ok ()) :: rest)
  | skipped {key : Reference} {scope : Resource} {event : Event} {rest : List Entry}
      (skips : event.Skips key) (later : Paired config rest) :
      Paired config (.called (.get key) (.ok scope) :: .noted event :: rest)
  | gone {key : Reference} {refusal : StoreError} {event : Event} {rest : List Entry}
      (missing : refusal.isNotFound = true) (tolerated : config.ignoreMissingScopeOnRemoval = true)
      (skips : event.Skips key) (later : Paired config rest) :
      Paired config (.called (.get key) (.error refusal) :: .noted event :: rest)

theorem Paired.append {config : Config} {before after : List Entry} (one : Paired config before)
    (two : Paired config after) : Paired config (before ++ after) := by
  induction one with
  | nothing => exact two
  | other plain later ih => exact .other plain ih
  | written later ih => exact .written ih
  | skipped skips later ih => exact .skipped skips ih
  | gone missing tolerated skips later ih => exact .gone missing tolerated skips ih

/-- The fetches are paired, and there are so many updates. -/
def Booked (config : Config) (count : Nat) (entries : List Entry) : Prop :=
  Paired config entries ∧ entries.countP Entry.isUpdate = count

theorem Booked.append {config : Config} {one two : Nat} {before after : List Entry}
    (first : Booked config one before) (second : Booked config two after) :
    Booked config (one + two) (before ++ after) :=
  ⟨first.1.append second.1, by rw [List.countP_append, first.2, second.2]⟩

theorem plain_of_event {event : Event} {name : String} (names : event.record.event? = some name)
    (other : name ≠ "skip") : (Entry.noted event).IsPlain := by
  intro skip
  rw [names] at skip
  exact other (Option.some.inj skip)

theorem booked_nil (config : Config) : Booked config 0 [] := ⟨.nothing, rfl⟩

theorem booked_plain (config : Config) {entry : Entry} (plain : entry.IsPlain) :
    Booked config 0 [entry] := by
  have silent : entry.isUpdate = false := by
    cases entry with
    | called call reply =>
        cases call with
        | update role body => exact plain.elim
        | _ => rfl
    | noted event => rfl
  exact ⟨.other plain .nothing, by simp [silent]⟩

namespace Dialogue

variable {α β : Type} {config : Config}

theorem Ensures.booked_bind {first : Dialogue α} {second : α → Dialogue β} {count : β → Nat}
    (one : first.Ensures fun _ => Booked config 0)
    (two : ∀ value, (second value).Ensures fun last => Booked config (count last)) :
    (first.bind second).Ensures fun last => Booked config (count last) := by
  refine one.bind two ?_
  intro value last before after silent later
  have booked := silent.append later
  rwa [Nat.zero_add] at booked

theorem Ensures.booked_call {call : Call} {refused : StoreError → ApplyError}
    (plain : ∀ answer, (Entry.called call (.ok answer)).IsPlain) :
    (Dialogue.call call refused).Ensures fun _ => Booked config 0 := by
  apply Ensures.call
  intro answer
  exact booked_plain config (plain answer)

theorem Ensures.booked_tell {event : Event} (plain : (Entry.noted event).IsPlain) :
    (Dialogue.tell event).Ensures fun _ => Booked config 0 :=
  .note (.done (booked_plain config plain))

theorem Ensures.booked_select {step : α → Dialogue Bool}
    (each : ∀ item, (step item).Ensures fun chosen => Booked config chosen.toNat)
    (items : List α) :
    (Dialogue.select step items).Ensures fun chosen => Booked config chosen.length := by
  induction items with
  | nil => exact .done (booked_nil config)
  | cons item rest ih =>
      have others (chosen : Bool) : ((Dialogue.select step rest).bind fun later =>
          .done (.ok (if chosen then item :: later else later))).Ensures fun all entries =>
            ∃ count, Booked config count entries ∧ all.length = chosen.toNat + count := by
        refine ih.map ?_
        intro later entries booked
        refine ⟨later.length, booked, ?_⟩
        cases chosen <;> simp [Nat.add_comm]
      refine (each item).bind others ?_
      intro chosen all before after booked rest
      obtain ⟨count, later, total⟩ := rest
      rw [total]
      exact booked.append later

end Dialogue

namespace Enrolment

theorem Visit.skips_unchanged (visit : Visit) : visit.unchanged.Skips visit.key := by
  obtain ⟨joins, member, key⟩ := visit
  cases joins <;> exact ⟨rfl, rfl⟩

theorem Visit.isStep_unchanged (visit : Visit) : visit.unchanged.IsStep := by
  obtain ⟨joins, member, key⟩ := visit
  cases joins with
  | true => exact Event.isStep_of_operation rfl (by decide) (by decide)
  | false => exact Event.isStep_of_operation rfl (by decide) (by decide)

theorem Visit.booked_attempt (config : Config) (visit : Visit) :
    (visit.attempt config).Ensures fun made => Booked config made.toNat := by
  apply Dialogue.Ensures.heed
  apply Dialogue.Ensures.ask
  intro reply
  cases reply with
  | error refusal =>
      rw [react]
      cases tolerated : visit.tolerates config refusal with
      | true =>
          simp only [tolerates, Bool.and_eq_true] at tolerated
          obtain ⟨-, missing, ignored⟩ := tolerated
          exact .note (.done ⟨.gone missing ignored ⟨rfl, rfl⟩ .nothing, rfl⟩)
      | false => exact .fail _ _
  | ok scope =>
      rw [react, edit_eq]
      cases revision config visit.change scope with
      | error error => exact .fail _ _
      | ok outcome =>
          cases outcome with
          | none => exact .note (.done ⟨.skipped visit.skips_unchanged .nothing, rfl⟩)
          | some body =>
              apply Dialogue.Ensures.heed
              apply Dialogue.Ensures.ask
              intro reply
              cases reply with
              | ok answer => exact .done ⟨.written .nothing, rfl⟩
              | error refusal => exact .fail _ _

theorem Visit.tellsOnly_attempt (config : Config) (visit : Visit) :
    (visit.attempt config).TellsOnly Event.IsStep := by
  intro reply
  cases reply with
  | error refusal =>
      rw [react]
      cases visit.tolerates config refusal with
      | true => exact ⟨Event.isStep_of_operation rfl (by decide) (by decide), trivial⟩
      | false => trivial
  | ok scope =>
      rw [react, edit_eq]
      cases revision config visit.change scope with
      | error error => trivial
      | ok outcome =>
          cases outcome with
          | none => exact ⟨visit.isStep_unchanged, trivial⟩
          | some body => exact Dialogue.tellsOnly_bind (fun _ => trivial) fun _ => trivial

def Changes.count (changes : Changes) : Nat := changes.added.length + changes.removed.length

theorem booked_carryOut (config : Config) (member : Reference) (plan : ScopePlan) :
    (carryOut config member plan).Ensures fun changes => Booked config changes.count := by
  have joining : (Dialogue.select (add config member) plan.toAdd).Ensures
      fun chosen => Booked config chosen.length := by
    apply Dialogue.Ensures.booked_select
    intro key
    rw [add_eq]
    exact Visit.booked_attempt config ⟨true, member, key⟩
  have leaving : (Dialogue.select (remove config member) plan.toRemove).Ensures
      fun chosen => Booked config chosen.length := by
    apply Dialogue.Ensures.booked_select
    intro key
    rw [remove_eq]
    exact Visit.booked_attempt config ⟨false, member, key⟩
  have after (added : List Reference) :
      ((Dialogue.select (remove config member) plan.toRemove).bind fun removed =>
        .done (.ok { added := added, removed := removed : Changes })).Ensures
          fun changes entries => changes.added = added ∧
            Booked config changes.removed.length entries :=
    leaving.map fun _ _ booked => ⟨rfl, booked⟩
  refine joining.bind after ?_
  intro added changes before last booked rest
  obtain ⟨rfl, later⟩ := rest
  exact booked.append later

theorem tellsOnly_carryOut (config : Config) (member : Reference) (plan : ScopePlan) :
    (carryOut config member plan).TellsOnly Event.IsStep := by
  have joining (key : Reference) : (add config member key).TellsOnly Event.IsStep := by
    rw [add_eq]
    exact Visit.tellsOnly_attempt config ⟨true, member, key⟩
  have leaving (key : Reference) : (remove config member key).TellsOnly Event.IsStep := by
    rw [remove_eq]
    exact Visit.tellsOnly_attempt config ⟨false, member, key⟩
  exact Dialogue.tellsOnly_bind (Dialogue.tellsOnly_select joining _) fun _ =>
    Dialogue.tellsOnly_bind (Dialogue.tellsOnly_select leaving _) fun _ => trivial

end Enrolment

namespace Pass

variable (pass : Pass)

theorem booked_applyTrait (workload : Reference) (body : Resource) :
    (pass.applyTrait workload body).Ensures fun _ => Booked pass.config 0 := by
  have typed (traitType : TraitType) :
      (pass.equip workload body traitType).Ensures fun _ => Booked pass.config 0 := by
    rw [equip]
    cases (body.inject traitType.injectionPath? workload).failure with
    | some error => exact .fail _ _
    | none =>
        exact .heed (Dialogue.Ensures.booked_bind (.booked_call fun _ => trivial) fun _ =>
          .booked_tell nofun)
  rw [applyTrait_eq]
  exact .heed (Dialogue.Ensures.booked_bind (.booked_call fun _ => trivial) typed)

theorem tellsOnly_applyTrait (workload : Reference) (body : Resource) :
    (pass.applyTrait workload body).TellsOnly Event.IsStep := by
  rw [applyTrait_eq]
  refine Dialogue.tellsOnly_bind (fun _ => trivial) fun traitType => ?_
  rw [equip]
  cases (body.inject traitType.injectionPath? workload).failure with
  | some error => trivial
  | none =>
      exact Dialogue.tellsOnly_bind (fun _ => trivial) fun _ =>
        ⟨Event.isStep_of_operation rfl (by decide) (by decide), trivial⟩

/-- What is done for a workload between the start and the end of its chapter. -/
def chapter (workload : Workload) : Dialogue Enrolment.Changes :=
  .heed "apply_workload"
    ((Dialogue.call (.upsert .workload workload.body pass.options) fun refusal =>
      .applyWorkload workload.body.name refusal).bind fun _ =>
      (Dialogue.each (pass.applyTrait workload.reference) workload.traits).bind fun _ =>
        Enrolment.carryOut pass.config workload.reference (pass.plan workload))

theorem applyWorkload_eq (workload : Workload) :
    pass.applyWorkload workload =
      .note (.workloadStarted workload.reference workload.traits.length workload.scopes.length)
        ((pass.chapter workload).bind fun changes => .tell
          (.workloadEnded workload.reference changes.added.length changes.removed.length)) := by
  simp only [chapter, Dialogue.bind, Dialogue.bind_assoc]
  rfl

theorem dereferenceOrphan_eq (status : WorkloadStatus) :
    pass.dereferenceOrphan status =
      (Enrolment.carryOut pass.config (pass.orphan status) (pass.orphanPlan status)).bind
        fun changes => .tell (.orphanDereferenced (pass.orphan status) changes.removed.length) :=
  rfl

theorem booked_chapter (workload : Workload) :
    (pass.chapter workload).Ensures fun changes => Booked pass.config changes.count := by
  have traits : (Dialogue.each (pass.applyTrait workload.reference) workload.traits).Ensures
      fun _ => Booked pass.config 0 :=
    .each (booked_nil pass.config) (fun _ _ one two => one.append two)
      (pass.booked_applyTrait workload.reference) workload.traits
  exact .heed (Dialogue.Ensures.booked_bind (.booked_call fun _ => trivial) fun _ =>
    traits.booked_bind fun _ => Enrolment.booked_carryOut _ _ _)

theorem tellsOnly_chapter (workload : Workload) :
    (pass.chapter workload).TellsOnly Event.IsStep :=
  Dialogue.tellsOnly_bind (fun _ => trivial) fun _ =>
    Dialogue.tellsOnly_bind (Dialogue.tellsOnly_each (pass.tellsOnly_applyTrait _) _) fun _ =>
      Enrolment.tellsOnly_carryOut _ _ _

theorem tellsOnly_orphans (orphans : List WorkloadStatus) :
    (Dialogue.each pass.dereferenceOrphan orphans).TellsOnly Event.IsStep := by
  apply Dialogue.tellsOnly_each
  intro status
  rw [dereferenceOrphan_eq]
  exact Dialogue.tellsOnly_bind (Enrolment.tellsOnly_carryOut _ _ _) fun _ =>
    ⟨Event.isStep_of_operation rfl (by decide) (by decide), trivial⟩

theorem paired_dialogue : pass.dialogue.Ensures fun _ => Paired pass.config := by
  have join (before after : List Entry) (one : Paired pass.config before)
      (two : Paired pass.config after) : Paired pass.config (before ++ after) := one.append two
  have told {event : Event} (plain : (Entry.noted event).IsPlain) :
      (Dialogue.tell event).Ensures fun _ => Paired pass.config :=
    .note (.done (.other plain .nothing))
  have present (workload : Workload) :
      (pass.applyWorkload workload).Ensures fun _ => Paired pass.config := by
    have chapter := (pass.booked_chapter workload).mono fun _ _ booked => booked.1
    have ended (changes : Enrolment.Changes) :
        (Dialogue.tell (.workloadEnded workload.reference changes.added.length
          changes.removed.length)).Ensures fun _ => Paired pass.config :=
      told (plain_of_event rfl (by decide))
    rw [applyWorkload_eq]
    exact .note ((chapter.bind ended fun _ _ => join).mono fun _ _ paired =>
      .other (plain_of_event rfl (by decide)) paired)
  have retire (status : WorkloadStatus) :
      (pass.dereferenceOrphan status).Ensures fun _ => Paired pass.config := by
    have leaving := (Enrolment.booked_carryOut pass.config (pass.orphan status)
      (pass.orphanPlan status)).mono fun _ _ booked => booked.1
    have ended (changes : Enrolment.Changes) :
        (Dialogue.tell (.orphanDereferenced (pass.orphan status) changes.removed.length)).Ensures
          fun _ => Paired pass.config := told nofun
    rw [dereferenceOrphan_eq]
    exact leaving.bind ended fun _ _ => join
  rw [dialogue_eq]
  exact (Dialogue.Ensures.each .nothing join present pass.workloads).bind
    (fun _ => Dialogue.Ensures.each .nothing join retire pass.orphans) fun _ _ => join

/-! ### Chapters -/

def steps (workload : Workload) : Dialogue Unit := .each pass.perform (pass.workloadTasks workload)

/-- The chapters of workloads that are attempted in turn, and what they come to. Each begins with
the start of its workload. If all steps succeed, it is closed by the end, which tells how many
scopes were updated; otherwise it is the last. -/
inductive Chapters {State : Type} (pass : Pass) (world : World State) :
    List Workload → State → List Entry → Except ApplyError Unit → Prop where
  | finished (state : State) : Chapters pass world [] state [] (.ok ())
  | closed {workload : Workload} {rest : List Workload} {state : State} {inner later : List Entry}
      {result : Except ApplyError Unit} {first last : Event} {added removed : Nat}
      (opens : first.record.Opens workload)
      (succeeded : ((pass.steps workload).run world state).result = .ok ())
      (said : inner.filterMap Entry.exchange? = ((pass.steps workload).run world state).exchanges)
      (told : ∀ event, .noted event ∈ inner → event.IsStep)
      (counted : added + removed = inner.countP Entry.isUpdate)
      (closes : last.record.Closes workload added removed)
      (others : Chapters pass world rest ((pass.steps workload).run world state).state later
        result) :
      Chapters pass world (workload :: rest) state
        (.noted first :: inner ++ .noted last :: later) result
  | broken {workload : Workload} (rest : List Workload) {state : State} {inner : List Entry}
      {error : ApplyError} {first : Event} (opens : first.record.Opens workload)
      (failed : ((pass.steps workload).run world state).result = .error error)
      (said : inner.filterMap Entry.exchange? = ((pass.steps workload).run world state).exchanges)
      (told : ∀ event, .noted event ∈ inner → event.IsStep) :
      Chapters pass world (workload :: rest) state (.noted first :: inner) (.error error)

def opening (workload : Workload) : Event :=
  .workloadStarted workload.reference workload.traits.length workload.scopes.length

theorem opens_opening (workload : Workload) : (opening workload).record.Opens workload :=
  ⟨rfl, rfl, rfl, rfl, rfl⟩

theorem closes_workloadEnded (workload : Workload) (added removed : Nat) :
    (Event.workloadEnded workload.reference added removed).record.Closes workload added removed :=
  ⟨rfl, rfl, rfl, rfl, rfl⟩

variable {pass} {State : Type} {world : World State} {workload : Workload} {state : State}

theorem run_applyWorkload_error {error : ApplyError}
    (failed : ((pass.chapter workload).run world state).result = .error error) :
    let chapter := (pass.chapter workload).run world state
    (pass.applyWorkload workload).run world state =
      ⟨.error error, .noted (opening workload) :: chapter.transcript, chapter.state⟩ := by
  rw [applyWorkload_eq, Dialogue.run, Dialogue.run_bind, Run.andThen, failed]
  rfl

theorem run_applyWorkload_ok {changes : Enrolment.Changes}
    (succeeded : ((pass.chapter workload).run world state).result = .ok changes) :
    let chapter := (pass.chapter workload).run world state
    (pass.applyWorkload workload).run world state =
      ⟨.ok (), .noted (opening workload) :: chapter.transcript ++
        [.noted (.workloadEnded workload.reference changes.added.length changes.removed.length)],
        chapter.state⟩ := by
  rw [applyWorkload_eq, Dialogue.run, Dialogue.run_bind, Run.andThen, succeeded]
  rfl

/-- But for its value and what is told of it, a chapter is the steps of its workload. -/
theorem run_steps (pass : Pass) (world : World State) (workload : Workload) (state : State) :
    let chapter := (pass.chapter workload).run world state
    let steps := (pass.steps workload).run world state
    steps.result = chapter.result.map (fun _ => ()) ∧
      chapter.transcript.filterMap Entry.exchange? = steps.exchanges ∧
      steps.state = chapter.state := by
  intro chapter steps
  have quiet : (pass.chapter workload).ignore.quiet = (pass.steps workload).quiet := by
    rw [Pass.steps, ← quiet_applyWorkload, applyWorkload_eq, Dialogue.ignore, Dialogue.quiet,
      Dialogue.quiet_bind, Dialogue.quiet_bind]
    rfl
  obtain ⟨result, said, left⟩ := Dialogue.run_eq_of_quiet quiet world state
  rw [Dialogue.run_ignore] at result said left
  exact ⟨result.symm, said, left.symm⟩

theorem chapters_each (pass : Pass) (world : World State) (workloads : List Workload)
    (state : State) :
    pass.Chapters world workloads state
      ((Dialogue.each pass.applyWorkload workloads).run world state).transcript
      ((Dialogue.each pass.applyWorkload workloads).run world state).result := by
  induction workloads generalizing state with
  | nil => exact .finished state
  | cons workload rest ih =>
      obtain ⟨result, said, left⟩ := run_steps pass world workload state
      have told (event : Event) (entered : .noted event ∈
          ((pass.chapter workload).run world state).transcript) : event.IsStep :=
        Dialogue.allowed_of_tellsOnly world (pass.tellsOnly_chapter workload) state entered
      rw [Dialogue.each, Dialogue.run_bind, Run.andThen]
      cases outcome : ((pass.chapter workload).run world state).result with
      | error error =>
          rw [outcome] at result
          rw [run_applyWorkload_error outcome]
          exact .broken rest (opens_opening workload) result said told
      | ok changes =>
          have booked := pass.booked_chapter workload State world state changes outcome
          rw [outcome] at result
          have others := ih ((pass.steps workload).run world state).state
          rw [left] at others
          rw [run_applyWorkload_ok outcome]
          simp only [List.append_assoc]
          exact .closed (opens_opening workload) result said told booked.2.symm
            (closes_workloadEnded workload _ _) (left ▸ others)

/-! ### Passes -/

theorem frames_started (request : Request) (workloads : Nat) :
    (Event.applyStarted request workloads).record.Frames request "start" := by
  obtain ⟨requestId, traceId?⟩ := request
  cases traceId? <;> exact ⟨rfl, rfl, rfl, rfl⟩

theorem frames_closing (request : Request) (result : Except ApplyError Unit) :
    (result = .ok () → (closing request result).record.Frames request "end") ∧
      ∀ error, result = .error error →
        (closing request result).record.Frames request "end_error" ∧
          (closing request result).record.field? "err.kind" =
            some (Report.ofApply error).kind.name ∧
          (closing request result).record.field? "err.code" =
            some (Report.ofApply error).kind.code := by
  obtain ⟨requestId, traceId?⟩ := request
  constructor
  · rintro rfl
    cases traceId? <;> exact ⟨rfl, rfl, rfl, rfl⟩
  · rintro error rfl
    cases traceId? <;> exact ⟨⟨rfl, rfl, rfl, rfl⟩, rfl, rfl⟩

theorem Chapters.apart {pass : Pass} {world : World State} {workloads : List Workload}
    {state : State} {entries : List Entry} {result : Except ApplyError Unit}
    (chapters : pass.Chapters world workloads state entries result) :
    ∀ event, .noted event ∈ entries → event.record.operation? ≠ some "apply" := by
  have other {event : Event} (names : event.record.operation? = some "apply_workload") :
      event.record.operation? ≠ some "apply" := by
    rw [names]
    decide
  induction chapters with
  | finished state => exact fun _ impossible => nomatch impossible
  | closed opens succeeded said told counted closes others ih =>
      intro event entered
      rcases List.mem_append.mp entered with before | after
      · rcases List.mem_cons.mp before with same | inner
        · cases same
          exact other opens.operation
        · exact (told event inner).1
      · rcases List.mem_cons.mp after with same | later
        · cases same
          exact other closes.operation
        · exact ih event later
  | broken rest opens failed said told =>
      intro event entered
      rcases List.mem_cons.mp entered with same | inner
      · cases same
        exact other opens.operation
      · exact (told event inner).1

/-- What is entered between the start and the end of a pass: the chapters of its workloads and, if
none of them is broken, what is done for its orphans. -/
theorem run_dialogue (pass : Pass) (world : World State) (state : State) :
    ∃ chapters others result,
      (pass.dialogue.run world state).transcript = chapters ++ others ∧
      pass.Chapters world pass.workloads state chapters result ∧
      (∀ error, result = .error error →
        others = [] ∧ (pass.dialogue.run world state).result = .error error) ∧
      ∀ event, .noted event ∈ others → event.IsStep := by
  have chapters := chapters_each pass world pass.workloads state
  have steps (after : State) (event : Event) (entered : .noted event ∈
      ((Dialogue.each pass.dereferenceOrphan pass.orphans).run world after).transcript) :
      event.IsStep :=
    Dialogue.allowed_of_tellsOnly world (pass.tellsOnly_orphans pass.orphans) after entered
  rw [dialogue_eq, Dialogue.run_bind, Run.andThen]
  generalize (Dialogue.each pass.applyWorkload pass.workloads).run world state = written at *
  obtain ⟨result, entries, after⟩ := written
  cases result with
  | error error =>
      refine ⟨entries, [], .error error, (List.append_nil entries).symm, chapters, ?_, ?_⟩
      · intro other same
        cases same
        exact ⟨rfl, rfl⟩
      · intro event impossible
        cases impossible
  | ok value =>
      refine ⟨entries, _, .ok value, rfl, chapters, ?_, steps after⟩
      intro error impossible
      cases impossible

/-- The log of a pass and its calls tell the same. The pass begins and ends with the only records of
its own, under the ids of its request; the last says whether it failed, and with which kind of
error. In between are the chapters of the workloads, in order, up to the first that is broken, and
then what is done for orphans. In a pass that succeeds each fetch is paired with an update or a
skip. -/
theorem journal_tells_run (pass : Pass) (request : Request) (world : World State) (state : State) :
    let run := pass.run request world state
    ∃ first chapters others last result,
      run.transcript = .noted first :: (chapters ++ others) ++ [.noted last] ∧
      first.record.Frames request "start" ∧
      (run.result = .ok () → last.record.Frames request "end") ∧
      (∀ error, run.result = .error error → last.record.Frames request "end_error" ∧
        last.record.field? "err.kind" = some (Report.ofApply error).kind.name ∧
        last.record.field? "err.code" = some (Report.ofApply error).kind.code) ∧
      (∀ event, .noted event ∈ chapters ++ others → event.record.operation? ≠ some "apply") ∧
      pass.Chapters world pass.workloads state chapters result ∧
      (∀ error, result = .error error → others = [] ∧ run.result = .error error) ∧
      (∀ event, .noted event ∈ others → event.IsStep) ∧
      (run.result = .ok () → Paired pass.config run.transcript) := by
  intro run
  obtain ⟨chapters, others, result, entries, written, ends, steps⟩ := run_dialogue pass world state
  obtain ⟨succeeded, failed⟩ := frames_closing request run.result
  have transcript : run.transcript =
      .noted (.applyStarted request pass.workloads.length) :: (chapters ++ others) ++
        [.noted (closing request run.result)] := by
    rw [← entries]
    rfl
  refine ⟨_, chapters, others, _, result, transcript, frames_started request _, succeeded, failed,
    ?_, written, ends, steps, ?_⟩
  · intro event entered
    rcases List.mem_append.mp entered with chapter | other
    · exact written.apart event chapter
    · exact (steps event other).1
  · intro done
    have body : Paired pass.config (chapters ++ others) := by
      rw [← entries]
      exact pass.paired_dialogue State world state () done
    rw [transcript]
    refine .other (plain_of_event rfl (by decide)) (body.append (.other ?_ .nothing))
    exact plain_of_event (succeeded done).event (by decide)

end Pass
end Rollout
