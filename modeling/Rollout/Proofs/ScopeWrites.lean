import Rollout.Proofs.Memory
import Rollout.Proofs.Play
import Rollout.Proofs.Worlds

/-! Scope writes. Every update of a pass comes right after the fetch of the scope it writes, and
changes nothing but the member list, by the one entry or the entries that a visit of the pass is
about. This holds against every store. -/

set_option autoImplicit false

namespace Rollout

namespace Call

def isAboutScope : Call → Bool
  | .get _ => true
  | .update _ _ => true
  | _ => false

def fetched? : Call → Option Reference
  | .get key => some key
  | _ => none

end Call

namespace Enrolment

variable {config : Config}

/-- The talk of visits that are made in order: each fetches its scope, and where there is
something to change the update may follow. -/
inductive Follows (config : Config) : List Visit → List Exchange → Prop where
  | silent (visits : List Visit) : Follows config visits []
  | aside {visits : List Visit} {talk : List Exchange} {call : Call} (reply : call.Reply)
      (other : call.isAboutScope = false) (later : Follows config visits talk) :
      Follows config visits (⟨call, reply⟩ :: talk)
  | fetched {visits : List Visit} {talk : List Exchange} (visit : Visit)
      (reply : (Call.get visit.key).Reply) (later : Follows config visits talk) :
      Follows config (visit :: visits) (⟨.get visit.key, reply⟩ :: talk)
  | written {visits : List Visit} {talk : List Exchange} (visit : Visit) {scope body : Resource}
      (reply : (Call.update .scope body).Reply)
      (revised : revision config visit.change scope = .ok (some body))
      (later : Follows config visits talk) :
      Follows config (visit :: visits)
        (⟨.get visit.key, .ok scope⟩ :: ⟨.update .scope body, reply⟩ :: talk)

theorem Follows.append {visits : List Visit} {before after : List Exchange}
    (others : ∀ exchange ∈ before, exchange.1.isAboutScope = false)
    (later : Follows config visits after) : Follows config visits (before ++ after) := by
  induction before with
  | nil => exact later
  | cons exchange rest ih =>
      obtain ⟨call, reply⟩ := exchange
      refine .aside reply (others _ List.mem_cons_self) (ih ?_)
      intro other member
      exact others other (List.mem_cons_of_mem _ member)

def fetchedKeys (talk : List Exchange) : List Reference :=
  talk.filterMap fun exchange => exchange.1.fetched?

theorem Follows.update {visits : List Visit} {talk before after : List Exchange} {role : Role}
    {body : Resource} {reply : (Call.update role body).Reply} (follows : Follows config visits talk)
    (split : talk = before ++ ⟨.update role body, reply⟩ :: after) :
    ∃ earlier visit scope, before = earlier ++ [⟨.get visit.key, .ok scope⟩] ∧
      visit ∈ visits ∧ role = .scope ∧
        revision config visit.change scope = .ok (some body) := by
  induction follows generalizing before with
  | silent visits => simp at split
  | @aside visits talk call answer other later ih =>
      cases before with
      | nil =>
          cases split
          cases other
      | cons exchange rest =>
          cases split
          obtain ⟨earlier, visit, scope, rfl, member, its, revised⟩ := ih rfl
          exact ⟨⟨call, answer⟩ :: earlier, visit, scope, rfl, member, its, revised⟩
  | @fetched visits talk first answer later ih =>
      cases before with
      | nil => cases split
      | cons exchange rest =>
          cases split
          obtain ⟨earlier, visit, scope, rfl, member, its, revised⟩ := ih rfl
          exact ⟨⟨.get first.key, answer⟩ :: earlier, visit, scope, rfl,
            List.mem_cons_of_mem _ member, its, revised⟩
  | @written visits talk first scope its answer revised later ih =>
      cases before with
      | nil => cases split
      | cons exchange rest =>
          cases rest with
          | nil =>
              cases split
              exact ⟨[], first, scope, rfl, List.mem_cons_self, rfl, revised⟩
          | cons next rest =>
              cases split
              obtain ⟨earlier, visit, other, rfl, member, same, made⟩ := ih rfl
              exact ⟨⟨.get first.key, .ok scope⟩ :: ⟨.update .scope its, answer⟩ :: earlier,
                visit, other, rfl, List.mem_cons_of_mem _ member, same, made⟩

theorem Follows.get {visits : List Visit} {talk before after : List Exchange} {key : Reference}
    {reply : (Call.get key).Reply} (follows : Follows config visits talk)
    (split : talk = before ++ ⟨.get key, reply⟩ :: after) :
    ∃ visit, visits[(fetchedKeys before).length]? = some visit ∧ visit.key = key ∧
      ∀ role body answer rest, after = ⟨.update role body, answer⟩ :: rest →
        ∃ scope, reply = .ok scope ∧ revision config visit.change scope = .ok (some body) := by
  induction follows generalizing before with
  | silent visits => simp at split
  | @aside visits talk call answer other later ih =>
      cases before with
      | nil =>
          cases split
          cases other
      | cons exchange rest =>
          cases split
          obtain ⟨visit, found, its, next⟩ := ih rfl
          refine ⟨visit, ?_, its, next⟩
          have notFetched : call.fetched? = none := by
            cases call with
            | get key => cases other
            | _ => rfl
          simpa [fetchedKeys, notFetched] using found
  | @fetched visits talk first answer later ih =>
      cases before with
      | nil =>
          cases split
          refine ⟨first, rfl, rfl, ?_⟩
          intro role body answer rest impossible
          rw [impossible] at later
          cases later with
          | aside _ other _ => cases other
      | cons exchange rest =>
          cases split
          obtain ⟨visit, found, its, next⟩ := ih rfl
          exact ⟨visit, by simpa [fetchedKeys, Call.fetched?] using found, its, next⟩
  | @written visits talk first scope its answer revised later ih =>
      cases before with
      | nil =>
          cases split
          refine ⟨first, rfl, rfl, ?_⟩
          intro role body reply rest same
          cases same
          exact ⟨scope, rfl, revised⟩
      | cons exchange rest =>
          cases rest with
          | nil => cases split
          | cons next rest =>
              cases split
              obtain ⟨visit, found, its, next⟩ := ih rfl
              exact ⟨visit, by simpa [fetchedKeys, Call.fetched?] using found, its, next⟩

end Enrolment

namespace Pass

open Enrolment (Visit Follows)

/-- A task says nothing about scopes beyond its visit, and goes on to the next only after that
visit was made. -/
theorem follows_perform (pass : Pass) (task : Task) {talk : List Exchange}
    {result : Except ApplyError Unit} (play : (pass.perform task).Play talk result)
    (rest : List Visit) :
    Follows pass.config (task.visit?.toList ++ rest) talk ∧
      (result = .ok () → ∀ later, Follows pass.config rest later →
        Follows pass.config (task.visit?.toList ++ rest) (talk ++ later)) := by
  have aside (others : ∀ exchange ∈ talk, exchange.1.isAboutScope = false)
      (none : task.visit?.toList = []) :
      Follows pass.config (task.visit?.toList ++ rest) talk ∧
        (result = .ok () → ∀ later, Follows pass.config rest later →
          Follows pass.config (task.visit?.toList ++ rest) (talk ++ later)) := by
    rw [none, List.nil_append]
    refine ⟨?_, fun _ later follows => follows.append others⟩
    have alone : Follows pass.config rest (talk ++ []) := (Follows.silent rest).append others
    rwa [List.append_nil] at alone
  cases task with
  | present workload =>
      refine aside ?_ rfl
      intro exchange member
      rcases Dialogue.play_heed play with ⟨rfl, -⟩ | upserts
      · cases member
      · obtain ⟨reply, rfl, -⟩ := Dialogue.play_call upserts
        rw [List.mem_singleton.mp member]
        rfl
  | equip workload body =>
      refine aside ?_ rfl
      intro exchange member
      rcases play_applyTrait play with ⟨-, rfl | ⟨reply, rfl⟩⟩ | ⟨traitType, reply, -, rfl, -⟩
      · cases member
      · rw [List.mem_singleton.mp member]
        rfl
      · rcases List.mem_cons.mp member with rfl | second
        · rfl
        · rw [List.mem_singleton.mp second]
          rfl
  | visit visit =>
      rcases visit.play_dialogue play with ⟨rfl, error, failed⟩ | ⟨refusal, rfl, -⟩ |
        ⟨scope, rfl, -⟩ | ⟨scope, body, reply, revised, rfl, -⟩
      · refine ⟨.silent _, ?_⟩
        intro succeeded
        rw [failed] at succeeded
        cases succeeded
      · exact ⟨.fetched visit _ (.silent rest), fun _ later follows => .fetched visit _ follows⟩
      · exact ⟨.fetched visit _ (.silent rest), fun _ later follows => .fetched visit _ follows⟩
      · exact ⟨.written visit reply revised (.silent rest),
          fun _ later follows => .written visit reply revised follows⟩

theorem follows_tasks (pass : Pass) (tasks : List Task) {talk : List Exchange}
    {result : Except ApplyError Unit}
    (play : (Dialogue.each pass.perform tasks).Play talk result) :
    Follows pass.config (tasks.filterMap Task.visit?) talk := by
  induction tasks generalizing talk with
  | nil =>
      cases play
      exact .silent _
  | cons task rest ih =>
      have visits : (task :: rest).filterMap Task.visit? =
          task.visit?.toList ++ rest.filterMap Task.visit? := by
        cases task <;> rfl
      rw [visits]
      rcases Dialogue.play_bind play with ⟨error, -, short⟩ |
        ⟨value, before, after, rfl, one, other⟩
      · exact (pass.follows_perform task short _).1
      · exact (pass.follows_perform task one _).2 rfl after (ih other)

/-- A desired scope without a namespace that may be the one with the key is passed over, because
one that is planned for could be it as well and lies in another namespace than the key. -/
def PassedOver (pass : Pass) (workload : Workload) (key : Reference) : Prop :=
  workload.reference.space? = none ∧
    ∃ scope ∈ workload.scopes, (scope.reference.scopeKey workload.reference).Matches key ∧
      scope.reference.space? = none ∧
        ∃ planned ∈ (pass.plan workload).toAdd,
          planned.Matches (scope.reference.scopeKey workload.reference) ∧ ¬ planned.Matches key

/-- A workload that desires the scope and is not listed is listed last, by its API version, kind and
name. -/
def Adds (pass : Pass) (key : Reference) (found changed : List Tree) : Prop :=
  ∃ workload ∈ pass.workloads,
    (∃ scope ∈ workload.scopes, scope.reference.scopeKey workload.reference = key) ∧
      ¬ Enrolment.Listed workload.reference found ∧
        changed = found ++ [.object [("apiVersion", .string workload.body.apiVersion),
          ("kind", .string workload.body.kind), ("name", .string workload.body.name)]]

/-- The entries of a member, of which there are some, are taken off the list. The scope was
recorded for the member, which is a workload that may leave the scope, or an orphan. -/
def Removes (pass : Pass) (mayLeave : Workload → Reference → Prop) (key : Reference)
    (found changed : List Tree) : Prop :=
  ∃ member : Reference, Enrolment.Listed member found ∧
    (changed = found.filter fun entry => ¬ member.MatchesEntry entry) ∧
      ((∃ workload ∈ pass.workloads, member = workload.reference ∧
          (∃ scope ∈ pass.recordedScopes workload.reference,
            scope.scopeKey workload.reference = key) ∧ mayLeave workload key) ∨
        ∃ status ∈ pass.orphans, member = pass.orphan status ∧
          ∃ scope ∈ status.scopeReferences, scope.scopeKey member = key)

theorem undesired_or_passedOver {pass : Pass} {workload : Workload} {key : Reference}
    (left : key ∈ (pass.plan workload).toRemove) :
    workload.Undesired key ∨ pass.PassedOver workload key := by
  by_cases desired : ∃ scope ∈ workload.scopes,
      (scope.reference.scopeKey workload.reference).Matches key
  · obtain ⟨scope, member, matching⟩ := desired
    obtain ⟨planned, inPlan, standsFor⟩ := ScopePlan.exists_mem_toAdd member workload.reference
      (pass.recordedScopes workload.reference)
    have apart := (ScopePlan.recorded_of_mem_toRemove left).2 planned inPlan
    obtain ⟨spaceless, homeless⟩ := Reference.scopeKey_eq_none
      (Reference.spaceless_of_matches standsFor matching apart)
    exact .inr ⟨homeless, scope, member, matching, spaceless, planned, inPlan, standsFor, apart⟩
  · apply Or.inl
    intro scope member matching
    exact desired ⟨scope, member, matching⟩

theorem adds_of_visit {pass : Pass} {visit : Enrolment.Visit} (planned : visit ∈ pass.visits)
    (joins : visit.joins = true) {found changed : List Tree}
    (made : visit.change found = some changed) : pass.Adds visit.key found changed := by
  rw [mem_visits_iff, visit_mem_tasks_iff] at planned
  simp only [joins, Bool.true_eq_false, false_and, and_false, or_false, exists_false, true_and]
    at planned
  obtain ⟨workload, member, its, toAdd⟩ := planned
  simp only [Enrolment.Visit.change, joins, if_true, Enrolment.joined_eq] at made
  split at made
  · cases made
  · cases made
    rename_i unlisted
    rw [its] at unlisted ⊢
    exact ⟨workload, member, ScopePlan.desired_of_mem_toAdd toAdd, unlisted, rfl⟩

theorem removes_of_visit {pass : Pass} {visit : Enrolment.Visit} (planned : visit ∈ pass.visits)
    (leaves : visit.joins = false) {found changed : List Tree}
    (made : visit.change found = some changed) :
    pass.Removes (fun workload key => workload.Undesired key ∨ pass.PassedOver workload key)
      visit.key found changed := by
  rw [mem_visits_iff, visit_mem_tasks_iff] at planned
  simp only [leaves, Bool.false_eq_true, false_and, false_or, true_and] at planned
  simp only [Enrolment.Visit.change, leaves, Bool.false_eq_true, if_false, Enrolment.left_eq]
    at made
  split at made
  · cases made
    rename_i listed
    refine ⟨visit.member, listed, rfl, ?_⟩
    rcases planned with ⟨workload, member, its, toRemove⟩ | ⟨status, member, its, toRemove⟩
    · exact .inl ⟨workload, member, its, (ScopePlan.recorded_of_mem_toRemove toRemove).1,
        undesired_or_passedOver toRemove⟩
    · obtain ⟨recorded, -⟩ := ScopePlan.recorded_of_mem_toRemove toRemove
      exact .inr ⟨status, member, its, its ▸ recorded⟩
  · cases made

/-- Every update of a pass comes right after the fetch of a scope and writes it back with a new
member list: one workload that desires the scope is added, or one member for which the scope was
recorded is taken off, and nobody comes to be listed twice. The fetches are those of the visits
in their order, and no update follows one whose visit has nothing to change. -/
theorem scope_writes_justified {State : Type} (pass : Pass) (request : Request)
    (world : World State) (state : State) :
    (∀ before role body reply after,
      (pass.run request world state).exchanges =
          before ++ ⟨.update role body, reply⟩ :: after →
        ∃ earlier key scope found changed, before = earlier ++ [⟨.get key, .ok scope⟩] ∧
          role = .scope ∧ Enrolment.members pass.config scope = .ok found ∧
            scope.set pass.config.workloadRefsPath (.array changed) = ⟨body, none⟩ ∧
              (pass.Adds key found changed ∨
                pass.Removes (fun workload key =>
                  workload.Undesired key ∨ pass.PassedOver workload key) key found changed) ∧
              ∀ other : Reference, changed.countP (fun entry => other.MatchesEntry entry) ≤
                max 1 (found.countP fun entry => other.MatchesEntry entry)) ∧
      ∀ before key reply after,
        (pass.run request world state).exchanges = before ++ ⟨.get key, reply⟩ :: after →
          ∃ visit, pass.visits[(Enrolment.fetchedKeys before).length]? = some visit ∧
            visit.key = key ∧
              ∀ scope found, reply = .ok scope →
                Enrolment.members pass.config scope = .ok found → visit.change found = none →
                  ∀ role body answer rest, after ≠ ⟨.update role body, answer⟩ :: rest := by
  obtain ⟨-, exchanges, -⟩ := pass.run_tasks request world state
  have follows : Follows pass.config pass.visits (pass.run request world state).exchanges := by
    rw [exchanges]
    exact pass.follows_tasks pass.tasks (Dialogue.play_run world _ state)
  constructor
  · intro before role body reply after split
    obtain ⟨earlier, visit, scope, rfl, planned, its, revised⟩ := follows.update split
    obtain ⟨found, changed, legible, made, written⟩ := Enrolment.revision_eq_some_iff.mp revised
    refine ⟨earlier, visit.key, scope, found, changed, rfl, its, legible, written, ?_,
      visit.countP_change made⟩
    cases joins : visit.joins with
    | true => exact .inl (adds_of_visit planned joins made)
    | false => exact .inr (removes_of_visit planned joins made)
  · intro before key reply after split
    obtain ⟨visit, found, its, next⟩ := follows.get split
    refine ⟨visit, found, its, ?_⟩
    intro scope members answered legible settled role body answer rest updated
    obtain ⟨other, same, revised⟩ := next role body answer rest updated
    rw [answered] at same
    cases same
    rw [Enrolment.revision_eq_none_iff.mpr ⟨members, legible, settled⟩] at revised
    cases revised

def roaming : Pass where
  recorded := [{
    reference := { apiVersion := "v1", kind := "Web", name := "w" }
    scopes := [⟨{ apiVersion := "v1", kind := "Scope", name := "s", space? := some "b" }⟩] }]
  workloads := [{
    body := .new "v1" "Web" "w"
    scopes := [(Resource.new "v1" "Scope" "s").withNamespace "a", .new "v1" "Scope" "s"] }]

def roamer : Reference := { apiVersion := "v1", kind := "Web", name := "w" }

def roamingStore : MemoryStore :=
  .holding [.scopeWith "a" "s" roamer, .scopeWith "b" "s" roamer]

/-- A scope is left that the workload still desires, as far as it says which one it means. -/
theorem leaves_scope_still_desired :
    ¬ ∀ before role body reply after,
      (roaming.run { requestId := "r" } MemoryStore.world roamingStore).exchanges =
          before ++ ⟨.update role body, reply⟩ :: after →
        ∃ earlier key scope found changed, before = earlier ++ [⟨.get key, .ok scope⟩] ∧
          Enrolment.members roaming.config scope = .ok found ∧
            scope.set roaming.config.workloadRefsPath (.array changed) = ⟨body, none⟩ ∧
              (roaming.Adds key found changed ∨
                roaming.Removes Workload.Undesired key found changed) := by
  intro justified
  let talk := (roaming.run { requestId := "r" } MemoryStore.world roamingStore).exchanges
  obtain ⟨earlier, key, scope, found, changed, split, -, -, allowed⟩ :=
    justified (talk.take 3) .scope
      (((Resource.new "v1" "Scope" "s").withNamespace "b").set "spec.workloadRefs"
        (.array [])).resource (.ok ()) [] (by rfl)
  have fetched : (⟨.get key, .ok scope⟩ : Exchange) =
      ⟨.get ⟨"v1", "Scope", "s", some "b", none⟩, .ok (.scopeWith "b" "s" roamer)⟩ := by
    have last := congrArg List.getLast? split
    rw [List.getLast?_concat] at last
    exact (Option.some.inj last).symm
  cases fetched
  rcases allowed with ⟨workload, member, desired, -⟩ |
    ⟨gone, -, -, ⟨workload, member, -, -, undesired⟩ | ⟨status, member, -⟩⟩
  · revert workload
    decide
  · revert workload
    decide
  · revert status
    decide

end Pass

end Rollout
