import Rollout.Proofs.Convergence
import Rollout.Proofs.Failure
import Rollout.Proofs.Stops

/-! What an error of a pass tells about an attribute. Only traits that want to be told about their
workload, and the member lists of scopes, are read or written at a path. A list that is not there
counts as empty, and one that was read can be written back shorter; what is left to go wrong is
little, and the error shows the path and the cause of it. -/

set_option autoImplicit false

namespace Rollout

inductive PathError.StopsWrite (path : String) : PathError → Prop where
  | malformed (reason : String) : StopsWrite path (.invalidPath path reason)
  | barred (segment expected met : String) :
      StopsWrite path (.notAContainer path segment expected met)
  | beyond (index length : Nat) : StopsWrite path (.indexOutOfBounds path index length)

theorem PathError.stopsWrite_of_set {resource : Resource} {path : String} {value : Tree}
    {error : PathError} (stopped : (resource.set path value).failure = some error) :
    error.StopsWrite path := by
  rcases Tree.failure_set_cases stopped with ⟨reason, rfl⟩ | ⟨segment, expected, met, rfl⟩ |
    ⟨index, length, rfl⟩
  · exact .malformed reason
  · exact .barred segment expected met
  · exact .beyond index length

theorem TraitType.stopsWrite_of_inject {traitType : TraitType} {body : Resource}
    {workload : Reference} {error : PathError}
    (untold : (body.inject traitType.injectionPath? workload).failure = some error) :
    ∃ path, traitType.workloadRefPath? = some path ∧ error.StopsWrite path := by
  unfold Resource.inject at untold
  cases wanted : traitType.injectionPath?.filter (· ≠ "") with
  | none =>
      rw [wanted] at untold
      cases untold
  | some path =>
      rw [wanted] at untold
      have named : traitType.workloadRefPath? = some path :=
        Option.eq_some_of_filter_eq_some (Option.eq_some_of_filter_eq_some wanted)
      exact ⟨path, named, PathError.stopsWrite_of_set untold⟩

theorem Config.validate_of_unparsed {config : Config} {reason : Malformed}
    (unparsed : Path.parse config.workloadRefsPath = .error reason) :
    ∃ error, config.validate = .error error := by
  refine ⟨.invalidWorkloadRefsPath (.invalidPath config.workloadRefsPath reason.message), ?_⟩
  simp only [validate, unparsed]

namespace Enrolment

variable {config : Config} {scope : Resource}

/-- What can be wrong with the member list of a scope as it was found: the path of the settings is
malformed, something else is on the way there, or it is no list. -/
inductive Illegible (config : Config) : PathError → Prop where
  | malformed (reason : String) (invalid : ∃ error, config.validate = .error error) :
      Illegible config (.invalidPath config.workloadRefsPath reason)
  | barred (segment expected met : String) :
      Illegible config (.notAContainer config.workloadRefsPath segment expected met)
  | unlisted (met : String) :
      Illegible config (.unexpectedType config.workloadRefsPath Shape.array.name met)

theorem illegible_of_members {error : PathError} (failed : members config scope = .error error) :
    Illegible config error := by
  unfold members at failed
  cases found : scope.get config.workloadRefsPath with
  | ok node =>
      rw [found] at failed
      cases node with
      | array items => cases failed
      | null => cases failed
      | _ =>
          cases failed
          exact .unlisted _
  | error stop =>
      cases present : stop.isNotFound with
      | true => simp [found, present] at failed
      | false =>
          simp only [found, present, Bool.false_eq_true, if_false, Except.error.injEq] at failed
          subst failed
          rcases Tree.barrier_of_get found present with ⟨reason, unparsed, rfl⟩ |
            ⟨segment, expected, met, rfl⟩
          · exact .malformed _ (Config.validate_of_unparsed unparsed)
          · exact .barred segment expected met

theorem faults_of_revision {visit : Visit} {error : PathError}
    (failed : revision config visit.change scope = .error error) :
    (members config scope = .error error ∧ Illegible config error) ∨
      visit.joins = true ∧ ∃ found index length, members config scope = .ok found ∧
        error = .indexOutOfBounds config.workloadRefsPath index length := by
  rcases revision_eq_error_iff.mp failed with illegible | ⟨found, changed, legible, made, stopped⟩
  · exact .inl ⟨illegible, illegible_of_members illegible⟩
  · have joins : visit.joins = true := by
      cases leaves : visit.joins with
      | true => rfl
      | false =>
          have feasible : visit.Feasible config scope :=
            ⟨⟨found, legible⟩, fun joins => absurd (leaves.symm.trans joins) Bool.false_ne_true⟩
          obtain ⟨outcome, revised⟩ := visit.feasible_iff.mp feasible
          rw [failed] at revised
          cases revised
    rcases Tree.get_eq_of_failure_set stopped with ⟨blocked, present⟩ | ⟨index, length, beyond⟩
    · have unread : members config scope = .error error := by
        change scope.get config.workloadRefsPath = .error error at blocked
        simp [members, blocked, present]
      rw [legible] at unread
      cases unread
    · exact .inr ⟨joins, found, index, length, legible, beyond⟩

end Enrolment

namespace Pass

open Enrolment (Visit members Illegible)

/-- How an attribute error ends a pass: the last thing said for the task that was reached is the
type of a trait, or the scope that was fetched. With the error come its cause and the path at
fault. -/
inductive Faulted (pass : Pass) : List Exchange → ApplyError → PathError → String → Prop where
  | untold {before : List Exchange} {workload : Reference} {body : Resource}
      {traitType : TraitType} {path : String} {cause : PathError}
      (reached : pass.Reaches pass.tasks before (.equip workload body) [])
      (failed : (body.inject traitType.injectionPath? workload).failure = some cause)
      (wanted : traitType.workloadRefPath? = some path) (stops : cause.StopsWrite path) :
      Faulted pass (before ++ [⟨.traitDefinition body.apiVersion body.kind, .ok traitType⟩])
        (.applyTrait body.apiVersion body.kind body.name (.attribute cause)) cause path
  | unread {before : List Exchange} {visit : Visit} {scope : Resource} {cause : PathError}
      (reached : pass.Reaches pass.tasks before (.visit visit) [])
      (failed : members pass.config scope = .error cause)
      (illegible : Illegible pass.config cause) :
      Faulted pass (before ++ [⟨.get visit.key, .ok scope⟩])
        (.updateScope visit.key visit.member (.attribute cause)) cause
        pass.config.workloadRefsPath
  | unwritten {before : List Exchange} {visit : Visit} {scope : Resource} {found : List Tree}
      (reached : pass.Reaches pass.tasks before (.visit visit) [])
      (joins : visit.joins = true) (legible : members pass.config scope = .ok found)
      (index length : Nat) :
      Faulted pass (before ++ [⟨.get visit.key, .ok scope⟩])
        (.updateScope visit.key visit.member
          (.attribute (.indexOutOfBounds pass.config.workloadRefsPath index length)))
        (.indexOutOfBounds pass.config.workloadRefsPath index length)
        pass.config.workloadRefsPath

variable {pass : Pass} {talk : List Exchange} {error : ApplyError} {cause : PathError}
  {path : String}

theorem faulted_of_yields {before : List Exchange} {task : Task}
    (reached : pass.Reaches pass.tasks before task [])
    (yields : pass.Yields task talk (.error error)) (unwritable : error.IsAttribute) :
    ∃ cause path, pass.Faulted (before ++ talk) error cause path := by
  generalize outcome : Except.error error = result at yields
  cases yields with
  | presented workload reply =>
      cases reply with
      | ok answer => cases outcome
      | error refusal =>
          cases outcome
          exact unwritable.elim
  | untyped workload body refusal =>
      cases outcome
      exact unwritable.elim
  | untold workload body traitType failed =>
      cases outcome
      obtain ⟨path, wanted, stops⟩ := TraitType.stopsWrite_of_inject failed
      exact ⟨_, path, .untold reached failed wanted stops⟩
  | equipped workload body traitType reply told =>
      cases reply with
      | ok answer => cases outcome
      | error refusal =>
          cases outcome
          exact unwritable.elim
  | unfetched visit refusal minded =>
      cases outcome
      exact unwritable.elim
  | gone visit refusal tolerated => cases outcome
  | unrevised visit scope failed =>
      cases outcome
      rcases Enrolment.faults_of_revision failed with ⟨unread, illegible⟩ |
        ⟨joins, found, index, length, legible, rfl⟩
      · exact ⟨_, _, .unread reached unread illegible⟩
      · exact ⟨_, _, .unwritten reached joins legible index length⟩
  | settled visit scope same => cases outcome
  | revised visit scope reply made =>
      cases reply with
      | ok answer => cases outcome
      | error refusal =>
          cases outcome
          exact unwritable.elim

theorem Faulted.attributePath? (faulted : pass.Faulted talk error cause path) :
    error.attributePath? = some path := by
  cases faulted with
  | untold reached failed wanted stops => cases stops <;> rfl
  | unread reached failed illegible => cases illegible <;> rfl
  | unwritten reached joins legible index length => rfl

/-- How an error with an attribute cause is shown: as what it is, under the path and the text of the
error, with its cause below it. -/
structure Shows (report : Report) (error : ApplyError) (cause : PathError) (path : String) :
    Prop where
  kind : report.kind = .attributeWrite
  place : report.path? = some path
  message : report.message = error.message
  source : ∃ source, report.source? = some source ∧
    ((∃ reason, cause = .invalidPath path reason) ∧ source.kind = .invalidPath ∨
      (∀ reason, cause ≠ .invalidPath path reason) ∧ source.kind = .attributeWrite)

theorem Faulted.shows (faulted : pass.Faulted talk error cause path) :
    Shows (Report.ofApply error) error cause path := by
  have shown := faulted.attributePath?
  cases faulted with
  | untold reached failed wanted stops =>
      refine ⟨rfl, shown, rfl, _, rfl, ?_⟩
      cases stops with
      | malformed reason => exact .inl ⟨⟨reason, rfl⟩, rfl⟩
      | barred segment expected met => exact .inr ⟨nofun, rfl⟩
      | beyond index length => exact .inr ⟨nofun, rfl⟩
  | unread reached failed illegible =>
      refine ⟨rfl, shown, rfl, _, rfl, ?_⟩
      cases illegible with
      | malformed reason invalid => exact .inl ⟨⟨reason, rfl⟩, rfl⟩
      | barred segment expected met => exact .inr ⟨nofun, rfl⟩
      | unlisted met => exact .inr ⟨nofun, rfl⟩
  | unwritten reached joins legible index length =>
      exact ⟨rfl, shown, rfl, _, rfl, .inr ⟨nofun, rfl⟩⟩

theorem shown_of_not_attribute (other : ¬ error.IsAttribute) :
    error.attributePath? = none ∧ (Report.ofApply error).path? = none ∧
      ((Report.ofApply error).source? = none ↔ error.isCancellation = true) := by
  cases error with
  | applyTrait version kind name source =>
      cases source with
      | store refusal => exact ⟨rfl, rfl, nofun, nofun⟩
      | _ => exact absurd trivial other
  | updateScope scope workload source =>
      cases source with
      | store refusal => exact ⟨rfl, rfl, nofun, nofun⟩
      | _ => exact absurd trivial other
  | cancelled operation reason => exact ⟨rfl, rfl, fun _ => rfl, fun _ => rfl⟩
  | _ => exact ⟨rfl, rfl, nofun, nofun⟩

/-- The attribute errors that a pass may end with, in whatever world, and what is shown of them and
of all others. -/
theorem attribute_errors {State : Type} (pass : Pass) (request : Request) (world : World State)
    (state : State) (error : ApplyError)
    (failed : (pass.run request world state).result = .error error) :
    let run := pass.run request world state
    (error.IsAttribute → ∃ cause path, pass.Faulted run.exchanges error cause path ∧
      error.attributePath? = some path ∧ Shows (Report.ofApply error) error cause path) ∧
      (¬ error.IsAttribute → error.attributePath? = none ∧ (Report.ofApply error).path? = none ∧
        ((Report.ofApply error).source? = none ↔ error.isCancellation = true)) := by
  intro run
  refine ⟨?_, shown_of_not_attribute⟩
  intro unwritable
  have live : run = pass.run request (Client.live world.answer) state := by
    apply run_eq_live_of_uncut
    intro operation reason stopped
    rw [failed] at stopped
    cases stopped
    exact unwritable
  have course := pass.course_run world.answer request state
  rw [← live] at course
  obtain ⟨task, before, here, reached, talk, yields⟩ := course.fails failed
  obtain ⟨cause, path, faulted⟩ := faulted_of_yields reached yields unwritable
  rw [talk]
  exact ⟨cause, path, faulted, faulted.attributePath?, faulted.shows⟩

theorem handover_beyond_new_list :
    let pass := { handover with config := { workloadRefsPath := "spec.rows[1]" } }
    let run := pass.run { requestId := "r" } MemoryStore.world handoverStore
    let error : ApplyError :=
      .updateScope { apiVersion := "v1", kind := "Scope", name := "s", space? := some "n" }
        successor.reference (.attribute (.indexOutOfBounds "spec.rows[1]" 1 0))
    run.result = .error error ∧ ∃ cause,
      pass.Faulted run.exchanges error cause "spec.rows[1]" ∧
        Shows (Report.ofApply error) error cause "spec.rows[1]" := by
  intro pass run error
  have failed : run.result = .error error := by decide +kernel
  obtain ⟨attributes, -⟩ := attribute_errors pass { requestId := "r" } MemoryStore.world
    handoverStore error failed
  obtain ⟨cause, path, faulted, shown, shows⟩ := attributes trivial
  cases shown
  exact ⟨failed, cause, faulted, shows⟩

end Pass
end Rollout
