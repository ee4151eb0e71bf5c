import Rollout.Proofs.Memory
import Rollout.Proofs.Tasks
import Rollout.Proofs.Worlds

/-! What a pass does not look at. The uids that are recorded, and all of a desired scope but its
name, bear on nothing that a pass does: two passes that differ in these alone go through the same
calls, leave the same behind, log the same records and end alike, up to the uid of the member that
an error names. -/

set_option autoImplicit false

namespace Rollout

/-- The error without the uid of the member that it arose for. -/
def ApplyError.withoutUid : ApplyError → ApplyError
  | .getScope scope workload source => .getScope scope workload.withoutUid source
  | .updateScope scope workload source => .updateScope scope workload.withoutUid source
  | other => other

theorem Report.ofApply_withoutUid (error : ApplyError) :
    ofApply error.withoutUid = ofApply error := by
  cases error <;> rfl

namespace Dialogue

variable {α β : Type}

/-- Dialogues that make the same calls and tell the log the same between them, whatever the replies
are, and come to results that differ at most in the uid that an error names. -/
inductive InStep : Dialogue α → Dialogue α → Prop where
  | done {result other : Except ApplyError α}
      (same : result.mapError ApplyError.withoutUid = other.mapError ApplyError.withoutUid) :
      InStep (.done result) (.done other)
  | heed (operation : String) {next other : Dialogue α} (later : InStep next other) :
      InStep (.heed operation next) (.heed operation other)
  | ask (call : Call) {next others : call.Reply → Dialogue α}
      (replies : ∀ reply, InStep (next reply) (others reply)) :
      InStep (.ask call next) (.ask call others)
  | note {event its : Event} {next other : Dialogue α} (records : event.record = its.record)
      (later : InStep next other) : InStep (.note event next) (.note its other)

theorem InStep.refl (dialogue : Dialogue α) : dialogue.InStep dialogue := by
  induction dialogue with
  | done result => exact .done rfl
  | heed operation next ih => exact .heed operation ih
  | ask call next ih => exact .ask call ih
  | note event next ih => exact .note rfl ih

theorem InStep.bind {first other : Dialogue α} {second others : α → Dialogue β}
    (one : first.InStep other) (two : ∀ value, (second value).InStep (others value)) :
    (first.bind second).InStep (other.bind others) := by
  induction one with
  | @done result other same =>
      cases result with
      | ok value =>
          cases other with
          | ok its =>
              cases same
              exact two value
          | error error => cases same
      | error error =>
          cases other with
          | ok its => cases same
          | error its => exact .done (congrArg Except.error (Except.error.inj same))
  | heed operation later ih => exact .heed operation ih
  | ask call replies ih => exact .ask call ih
  | note records later ih => exact .note records ih

theorem InStep.each {view : α → β} {step other : α → Dialogue Unit}
    (alike : ∀ item counterpart, view item = view counterpart →
      (step item).InStep (other counterpart)) {items counterparts : List α}
    (same : items.map view = counterparts.map view) :
    (Dialogue.each step items).InStep (Dialogue.each other counterparts) := by
  induction items generalizing counterparts with
  | nil =>
      cases counterparts with
      | nil => exact .refl _
      | cons counterpart others => cases same
  | cons item rest ih =>
      cases counterparts with
      | nil => cases same
      | cons counterpart others =>
          obtain ⟨here, later⟩ := List.cons.inj same
          exact (alike item counterpart here).bind fun _ => ih later

theorem InStep.select {step other : α → Dialogue Bool}
    (alike : ∀ item, (step item).InStep (other item)) (items : List α) :
    (Dialogue.select step items).InStep (Dialogue.select other items) := by
  induction items with
  | nil => exact .refl _
  | cons item rest ih =>
      exact (alike item).bind fun _ => ih.bind fun _ => .refl _

end Dialogue

/-- The runs say the same, with the same replies, log the same and leave the same behind, and the
results are the same up to the uid of a member. -/
structure Run.Agrees {State α : Type} (run other : Run State α) : Prop where
  exchanges : run.exchanges = other.exchanges
  state : run.state = other.state
  result : run.result.mapError ApplyError.withoutUid = other.result.mapError ApplyError.withoutUid
  records : run.events.map Event.record = other.events.map Event.record

theorem Dialogue.InStep.run {State α : Type} {first other : Dialogue α}
    (inStep : first.InStep other) (world : World State) (state : State) :
    (first.run world state).Agrees (other.run world state) := by
  induction inStep generalizing state with
  | done same => exact ⟨rfl, rfl, same, rfl⟩
  | note records later ih =>
      obtain ⟨exchanges, left, result, logged⟩ := ih state
      exact ⟨exchanges, left, result, List.cons_eq_cons.mpr ⟨records, logged⟩⟩
  | heed operation later ih =>
      simp only [Dialogue.run]
      cases world.stopped? state with
      | some reason => exact ⟨rfl, rfl, rfl, rfl⟩
      | none => exact ih state
  | ask call replies ih =>
      obtain ⟨exchanges, left, result, logged⟩ :=
        ih (world.answer call state).1 (world.answer call state).2
      exact ⟨congrArg (List.cons _) exchanges, left, result, logged⟩

theorem Reference.exists_uid {reference other : Reference}
    (same : reference.withoutUid = other.withoutUid) :
    ∃ uid?, other = { reference with uid? := uid? } := by
  obtain ⟨version, kind, name, space?, uid?⟩ := other
  cases same
  exact ⟨uid?, rfl⟩

namespace Enrolment

theorem Visit.inStep_attempt (config : Config) (joins : Bool) (key : Reference)
    {member other : Reference} (same : member.withoutUid = other.withoutUid) :
    ((⟨joins, member, key⟩ : Visit).attempt config).InStep
      ((⟨joins, other, key⟩ : Visit).attempt config) := by
  obtain ⟨uid?, rfl⟩ := Reference.exists_uid same
  refine .heed "get_scope" (.ask (.get key) ?_)
  intro reply
  cases reply with
  | error refusal =>
      cases tolerated : tolerates config ⟨joins, member, key⟩ refusal with
      | true =>
          have alike : tolerates config ⟨joins, { member with uid? := uid? }, key⟩ refusal = true :=
            tolerated
          simp only [react, tolerated, alike, if_true]
          exact .note rfl (.refl _)
      | false =>
          have alike :
              tolerates config ⟨joins, { member with uid? := uid? }, key⟩ refusal = false :=
            tolerated
          simp only [react, tolerated, alike, Bool.false_eq_true, if_false]
          exact .done rfl
  | ok scope =>
      have changes : change ⟨joins, { member with uid? := uid? }, key⟩ =
          change ⟨joins, member, key⟩ := change_congr rfl ⟨rfl, rfl, rfl⟩
      simp only [react, edit_eq, changes]
      cases revision config (change ⟨joins, member, key⟩) scope with
      | error error => exact .done rfl
      | ok outcome =>
          cases outcome with
          | none =>
              refine .note ?_ (.refl _)
              cases joins <;> rfl
          | some body =>
              refine .heed "update_scope" (Dialogue.InStep.bind (.ask _ ?_) fun _ => .refl _)
              intro reply
              cases reply <;> exact .done rfl

theorem inStep_carryOut (config : Config) {member other : Reference}
    (same : member.withoutUid = other.withoutUid) (plan : ScopePlan) :
    (carryOut config member plan).InStep (carryOut config other plan) := by
  have joining (key : Reference) : (add config member key).InStep (add config other key) := by
    rw [add_eq, add_eq]
    exact Visit.inStep_attempt config true key same
  have leaving (key : Reference) : (remove config member key).InStep (remove config other key) := by
    rw [remove_eq, remove_eq]
    exact Visit.inStep_attempt config false key same
  exact (Dialogue.InStep.select joining plan.toAdd).bind fun _ =>
    (Dialogue.InStep.select leaving plan.toRemove).bind fun _ => .refl _

end Enrolment

theorem ScopePlan.of_congr {member other : Reference} {desired wanted : List Resource}
    {recorded known : List Reference} (same : member.withoutUid = other.withoutUid)
    (scopes : desired.map (·.reference.withoutUid) = wanted.map (·.reference.withoutUid))
    (records : recorded.map (·.withoutUid) = known.map (·.withoutUid)) :
    ScopePlan.of member desired recorded = ScopePlan.of other wanted known := by
  obtain ⟨uid?, rfl⟩ := Reference.exists_uid same
  have keys := congrArg (List.map fun scope => scope.scopeKey member) scopes
  have left := congrArg (List.map fun scope => scope.scopeKey member) records
  rw [List.map_map, List.map_map] at keys left
  change desired.map (fun scope => scope.reference.scopeKey member) =
    wanted.map (fun scope => scope.reference.scopeKey { member with uid? := uid? }) at keys
  change recorded.map (fun scope => scope.scopeKey member) =
    known.map (fun scope => scope.scopeKey { member with uid? := uid? }) at left
  simp only [ScopePlan.of, keys, left]

theorem Enrolment.inStep_reconcile (config : Config) {member other : Reference}
    {desired wanted : List Resource} {recorded known : List Reference}
    (same : member.withoutUid = other.withoutUid)
    (scopes : desired.map (·.reference.withoutUid) = wanted.map (·.reference.withoutUid))
    (records : recorded.map (·.withoutUid) = known.map (·.withoutUid)) :
    (reconcile config member desired recorded).InStep (reconcile config other wanted known) := by
  rw [reconcile, reconcile, ScopePlan.of_congr same scopes records]
  exact inStep_carryOut config same _

def WorkloadStatus.withoutUids (status : WorkloadStatus) : WorkloadStatus where
  reference := status.reference.withoutUid
  scopes := status.scopes.map fun scope => ⟨scope.reference.withoutUid⟩

theorem WorkloadStatus.map_scopeReferences (status : WorkloadStatus) :
    status.scopeReferences.map (·.withoutUid) = status.withoutUids.scopeReferences := by
  simp [scopeReferences, withoutUids]

/-- What a pass looks at: all of the workload and its traits, and of each scope the API version,
kind, name and namespace. -/
def Workload.outline (workload : Workload) : Resource × List Resource × List Reference :=
  (workload.body, workload.traits, workload.scopes.map (·.reference.withoutUid))

namespace Pass

/-- The passes are the same but for recorded uids and what else desired scopes hold. -/
structure Resembles (pass other : Pass) : Prop where
  config : pass.config = other.config
  options : pass.options = other.options
  recorded : pass.recorded.map (·.withoutUids) = other.recorded.map (·.withoutUids)
  workloads : pass.workloads.map (·.outline) = other.workloads.map (·.outline)

variable {pass other : Pass}

theorem Resembles.bodies (resembles : pass.Resembles other) :
    pass.workloads.map (·.body) = other.workloads.map (·.body) := by
  have bodies := congrArg (List.map Prod.fst) resembles.workloads
  rwa [List.map_map, List.map_map] at bodies

theorem Resembles.space? (resembles : pass.Resembles other) : pass.space? = other.space? := by
  have first (its : Pass) : its.space? = (its.workloads.map (·.body)).findSome? (·.space?) :=
    List.findSome?_map.symm
  rw [first, first, resembles.bodies]

theorem Resembles.isOrphan_iff (resembles : pass.Resembles other) (status : WorkloadStatus) :
    pass.IsOrphan status ↔ other.IsOrphan status := by
  have apart (its : Pass) : (∀ workload ∈ its.workloads,
      ¬ status.reference.Matches workload.reference) ↔
      ∀ body ∈ its.workloads.map (·.body), ¬ status.reference.Matches body.reference := by
    simp only [List.forall_mem_map, Workload.reference]
  rw [IsOrphan, IsOrphan, apart, apart, resembles.bodies]

theorem Resembles.recordedScopes (resembles : pass.Resembles other) (workload : Reference) :
    (pass.recordedScopes workload).map (·.withoutUid) =
      (other.recordedScopes workload).map (·.withoutUid) := by
  have found (its : Pass) : (its.recordedScopes workload).map (·.withoutUid) =
      ((WorkloadStatus.find? (its.recorded.map (·.withoutUids)) workload).map
        (·.scopeReferences)).getD [] := by
    have mapped : WorkloadStatus.find? (its.recorded.map (·.withoutUids)) workload =
        (WorkloadStatus.find? its.recorded workload).map (·.withoutUids) := List.find?_map
    rw [Pass.recordedScopes, mapped]
    cases WorkloadStatus.find? its.recorded workload with
    | none => rfl
    | some status => exact status.map_scopeReferences
  rw [found, found, resembles.recorded]

theorem Resembles.inStep_applyWorkload (resembles : pass.Resembles other)
    {workload counterpart : Workload} (same : workload.outline = counterpart.outline) :
    (pass.applyWorkload workload).InStep (other.applyWorkload counterpart) := by
  obtain ⟨body, traits, scopes⟩ := workload
  obtain ⟨body', traits', wanted⟩ := counterpart
  rw [Workload.outline, Workload.outline, Prod.mk.injEq, Prod.mk.injEq] at same
  obtain ⟨rfl, rfl, names⟩ := same
  have count : scopes.length = wanted.length := by simpa using congrArg List.length names
  have records := resembles.recordedScopes body.reference
  have equipped : pass.applyTrait body.reference = other.applyTrait body.reference := by
    funext trait
    rw [applyTrait, applyTrait, resembles.options]
  rw [applyWorkload, applyWorkload, resembles.options, resembles.config]
  dsimp only [Workload.reference]
  rw [equipped, count]
  refine Dialogue.InStep.bind (.note rfl (.refl _)) fun _ => ?_
  refine Dialogue.InStep.bind (.refl _) fun _ => ?_
  refine Dialogue.InStep.bind (.refl _) fun _ => ?_
  refine Dialogue.InStep.bind (.refl _) fun _ => ?_
  exact (Enrolment.inStep_reconcile other.config rfl names records).bind fun _ => .refl _

theorem Resembles.inStep_dereferenceOrphan (resembles : pass.Resembles other)
    {status counterpart : WorkloadStatus} (same : status.withoutUids = counterpart.withoutUids) :
    (pass.dereferenceOrphan status).InStep (other.dereferenceOrphan counterpart) := by
  have references : status.reference.withoutUid = counterpart.reference.withoutUid :=
    congrArg WorkloadStatus.reference same
  have member : (pass.orphan status).withoutUid = (other.orphan counterpart).withoutUid := by
    have placed := congrArg (Reference.inheritNamespace · other.space?) references
    rw [orphan, orphan, resembles.space?]
    exact placed
  have records : status.scopeReferences.map (·.withoutUid) =
      counterpart.scopeReferences.map (·.withoutUid) := by
    rw [status.map_scopeReferences, counterpart.map_scopeReferences, same]
  rw [dereferenceOrphan, dereferenceOrphan, resembles.config]
  refine (Enrolment.inStep_reconcile other.config member rfl records).bind fun changes => ?_
  refine .note ?_ (.refl _)
  have names := congrArg Reference.name member
  change (pass.orphan status).name = (other.orphan counterpart).name at names
  simp only [Event.record, names]

theorem Resembles.map_orphans (resembles : pass.Resembles other) :
    (pass.recorded.filter fun status => pass.IsOrphan status).map (·.withoutUids) =
      (other.recorded.filter fun status => other.IsOrphan status).map (·.withoutUids) := by
  have orphans (its : Pass) :
      (its.recorded.filter fun status => its.IsOrphan status).map (·.withoutUids) =
        (its.recorded.map (·.withoutUids)).filter fun status => its.IsOrphan status := by
    rw [List.filter_map]
    congr 1
    refine List.filter_congr fun status _ => decide_eq_decide.mpr ?_
    simp only [IsOrphan, WorkloadStatus.withoutUids, ne_eq, List.map_eq_nil_iff]
    exact Iff.rfl
  rw [orphans, orphans, resembles.recorded]
  exact List.filter_congr fun status _ => decide_eq_decide.mpr (resembles.isOrphan_iff status)

theorem Resembles.inStep_dialogue (resembles : pass.Resembles other) :
    pass.dialogue.InStep other.dialogue := by
  rw [dialogue, dialogue, resembles.config]
  refine Dialogue.InStep.bind (Dialogue.InStep.each
    (fun _ _ same => resembles.inStep_applyWorkload same) resembles.workloads) fun _ => ?_
  split
  · exact Dialogue.InStep.each (fun _ _ same => resembles.inStep_dereferenceOrphan same)
      resembles.map_orphans
  · exact .refl _

theorem record_closing_mapError (request : Request) (result : Except ApplyError Unit) :
    (closing request (result.mapError ApplyError.withoutUid)).record =
      (closing request result).record := by
  cases result with
  | ok value => rfl
  | error error =>
      change (Event.applyFailed request error.withoutUid).record =
        (Event.applyFailed request error).record
      simp only [Event.record, Report.ofApply_withoutUid]

/-- What a pass leaves out of account. Passes that resemble one another make the same calls in
every world, leave the same state behind, tell the log the same, and have the same result up to the
uid of the member that an error names. -/
theorem agrees_of_resembles {State : Type} (pass other : Pass) (request : Request)
    (world : World State) (state : State) (resembles : pass.Resembles other) :
    (pass.run request world state).Agrees (other.run request world state) := by
  obtain ⟨exchanges, left, result, records⟩ := resembles.inStep_dialogue.run world state
  have count : pass.workloads.length = other.workloads.length := by
    simpa using congrArg List.length resembles.workloads
  have closings := congrArg (fun result => (closing request result).record) result
  simp only [record_closing_mapError] at closings
  refine ⟨?_, left, result, ?_⟩
  · rw [exchanges_run, exchanges_run, exchanges]
  · unfold Run.events at records ⊢
    simp only [run, List.cons_append, List.filterMap_cons, List.filterMap_append, List.map_cons,
      List.map_append, List.filterMap_nil, List.map_nil, count, records, closings]

def retired (uid : String) : Reference where
  apiVersion := "v1"
  kind := "Web"
  name := "old"
  uid? := some uid

def remembering (recorded desired : String) : Pass where
  config := { ignoreMissingScopeOnRemoval := false }
  recorded := [{
    reference := retired recorded
    scopes := [⟨{ apiVersion := "v1", kind := "Scope", name := "s" }⟩] }]
  workloads := [{
    body := .new "v1" "Web" "new"
    scopes := [(Resource.new "v1" "Scope" "t").withUid desired] }]

theorem agrees_remembering :
    let store := MemoryStore.holding [.new "v1" "Scope" "t"]
    let run := (remembering "1" "3").run { requestId := "r" } MemoryStore.world store
    let other := (remembering "2" "4").run { requestId := "r" } MemoryStore.world store
    let missed (uid : String) : ApplyError :=
      .getScope { apiVersion := "v1", kind := "Scope", name := "s" } (retired uid)
        (.notFound "Scope" "s")
    run.Agrees other ∧ run.result = .error (missed "1") ∧ other.result = .error (missed "2") := by
  refine ⟨?_, rfl, rfl⟩
  exact agrees_of_resembles (remembering "1" "3") (remembering "2" "4") { requestId := "r" }
    MemoryStore.world _ ⟨rfl, rfl, rfl, by decide⟩

end Pass
end Rollout
