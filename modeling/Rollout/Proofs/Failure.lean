import Rollout.Proofs.Schedule

/-! How a pass fails. The first call that is refused is the last one that is made, but for scopes
that are gone when they are to be left; the error names what the call was made for and keeps the
refusal. -/

set_option autoImplicit false

namespace Rollout

/-- The error of a step whose body cannot be written as it is to be. -/
def ApplyError.IsAttribute : ApplyError → Prop
  | .applyTrait _ _ _ (.attribute _) => True
  | .updateScope _ _ (.attribute _) => True
  | _ => False

theorem split_singleton {α : Type} {only element : α} {before after : List α}
    (split : [only] = before ++ element :: after) :
    before = [] ∧ element = only ∧ after = [] := by
  rcases List.append_eq_singleton_iff.mp split.symm with ⟨rfl, same⟩ | ⟨-, impossible⟩
  · cases same
    exact ⟨rfl, rfl, rfl⟩
  · cases impossible

theorem split_pair {α : Type} {first second element : α} {before after : List α}
    (split : [first, second] = before ++ element :: after) :
    before = [] ∧ element = first ∨ before = [first] ∧ element = second ∧ after = [] := by
  cases before with
  | nil =>
      cases split
      exact .inl ⟨rfl, rfl⟩
  | cons head rest =>
      rw [List.cons_append, List.cons.injEq] at split
      obtain ⟨rfl, split⟩ := split
      obtain ⟨rfl, same, last⟩ := split_singleton split
      exact .inr ⟨rfl, same, last⟩

namespace Pass

variable {pass : Pass} {task : Task} {talk : List Exchange} {result : Except ApplyError Unit}

/-- A scope that is to be left is not there when it is fetched, and the settings put up with
that. -/
def Tolerates (pass : Pass) (task : Task) (begun : List Exchange) (call : Call)
    (refusal : StoreError) : Prop :=
  ∃ visit, task = .visit visit ∧ visit.joins = false ∧ begun = [] ∧ call = .get visit.key ∧
    refusal.isNotFound = true ∧ pass.config.ignoreMissingScopeOnRemoval = true

/-- Whom a visit is made for: a desired workload, or a recorded one that matches none of these. The
latter goes by the namespace of the first workload that has one, unless it has one of its own. -/
inductive MadeFor (pass : Pass) (visit : Enrolment.Visit) : Reference → Prop where
  | workload {workload : Workload} (desired : workload ∈ pass.workloads)
      (planned : .visit visit ∈ pass.workloadTasks workload) :
      MadeFor pass visit workload.reference
  | orphan {status : WorkloadStatus} (recorded : status ∈ pass.recorded)
      (gone : ∀ workload ∈ pass.workloads, ¬ status.reference.Matches workload.reference)
      (planned : .visit visit ∈ pass.orphanTasks status) :
      MadeFor pass visit { status.reference with
        space? := status.reference.space? <|>
          pass.workloads.findSome? fun workload => workload.body.space? }

theorem madeFor_of_mem {visit : Enrolment.Visit} (planned : .visit visit ∈ pass.tasks) :
    pass.MadeFor visit visit.member := by
  rcases List.mem_append.mp planned with present | retired
  · obtain ⟨workload, desired, its⟩ := List.mem_flatMap.mp present
    obtain ⟨named, -⟩ := (pass.visit_mem_workloadTasks_iff workload visit).mp its
    rw [named]
    exact .workload desired its
  · obtain ⟨status, left, its⟩ := List.mem_flatMap.mp retired
    obtain ⟨-, recorded, -, gone⟩ := (pass.mem_orphans_iff status).mp left
    obtain ⟨named, -⟩ := (pass.visit_mem_orphanTasks_iff status visit).mp its
    rw [named, orphan_eq]
    exact .orphan recorded gone its

/-- How a refusal is told that ends a task, where this much had been said for the task before:
what is named is the workload, the trait as it is desired, or the scope under the key that was
asked for, with the member it was visited for. -/
inductive Blames (pass : Pass) : Task → List Exchange → Call → StoreError → ApplyError → Prop where
  | workload (workload : Workload) (refusal : StoreError) :
      Blames pass (.present workload) [] (.upsert .workload workload.body pass.options) refusal
        (.applyWorkload workload.body.name refusal)
  | traitType (workload : Reference) (body : Resource) (refusal : StoreError) :
      Blames pass (.equip workload body) [] (.traitDefinition body.apiVersion body.kind) refusal
        (.getTraitDefinition body.apiVersion body.kind body.name refusal)
  | trait (workload : Reference) (body : Resource) (traitType : TraitType) (refusal : StoreError) :
      Blames pass (.equip workload body)
        [⟨.traitDefinition body.apiVersion body.kind, .ok traitType⟩]
        (.upsert .trait (body.inject traitType.injectionPath? workload).resource pass.options)
        refusal (.applyTrait body.apiVersion body.kind body.name (.store refusal))
  | fetch {visit : Enrolment.Visit} {member : Reference} (its : pass.MadeFor visit member)
      (refusal : StoreError) :
      Blames pass (.visit visit) [] (.get visit.key) refusal (.getScope visit.key member refusal)
  | update {visit : Enrolment.Visit} {member : Reference} (its : pass.MadeFor visit member)
      (scope body : Resource) (refusal : StoreError) :
      Blames pass (.visit visit) [⟨.get visit.key, .ok scope⟩] (.update .scope body) refusal
        (.updateScope visit.key member (.store refusal))

theorem tolerates_of_visit {visit : Enrolment.Visit} {refusal : StoreError}
    (tolerated : visit.tolerates pass.config refusal = true) :
    pass.Tolerates (.visit visit) [] (.get visit.key) refusal := by
  simp only [Enrolment.Visit.tolerates, Bool.and_eq_true, Bool.not_eq_true'] at tolerated
  obtain ⟨leaves, missing, ignored⟩ := tolerated
  exact ⟨visit, rfl, leaves, rfl, rfl, missing, ignored⟩

theorem Yields.refused (yields : pass.Yields task talk result) (planned : task ∈ pass.tasks)
    {begun after : List Exchange} {call : Call} {refusal : StoreError}
    (split : talk = begun ++ ⟨call, .error refusal⟩ :: after) :
    after = [] ∧ (pass.Tolerates task begun call refusal ∧ result = .ok () ∨
      ∃ error, pass.Blames task begun call refusal error ∧ result = .error error) := by
  cases yields with
  | presented workload reply =>
      obtain ⟨rfl, same, rfl⟩ := split_singleton split
      cases same
      exact ⟨rfl, .inr ⟨_, .workload workload refusal, rfl⟩⟩
  | untyped workload body _ =>
      obtain ⟨rfl, same, rfl⟩ := split_singleton split
      cases same
      exact ⟨rfl, .inr ⟨_, .traitType workload body refusal, rfl⟩⟩
  | untold workload body traitType failed =>
      obtain ⟨-, same, -⟩ := split_singleton split
      cases same
  | equipped workload body traitType reply told =>
      rcases split_pair split with ⟨-, same⟩ | ⟨rfl, same, rfl⟩
      · cases same
      · cases same
        exact ⟨rfl, .inr ⟨_, .trait workload body traitType refusal, rfl⟩⟩
  | unfetched visit _ minded =>
      obtain ⟨rfl, same, rfl⟩ := split_singleton split
      cases same
      exact ⟨rfl, .inr ⟨_, .fetch (madeFor_of_mem planned) refusal, rfl⟩⟩
  | gone visit _ tolerated =>
      obtain ⟨rfl, same, rfl⟩ := split_singleton split
      cases same
      exact ⟨rfl, .inl ⟨tolerates_of_visit tolerated, rfl⟩⟩
  | unrevised visit scope failed =>
      obtain ⟨-, same, -⟩ := split_singleton split
      cases same
  | settled visit scope same =>
      obtain ⟨-, same, -⟩ := split_singleton split
      cases same
  | revised visit scope reply made =>
      rcases split_pair split with ⟨-, same⟩ | ⟨rfl, same, rfl⟩
      · cases same
      · cases same
        exact ⟨rfl, .inr ⟨_, .update (madeFor_of_mem planned) scope _ refusal, rfl⟩⟩

def EndsRefused (talk : List Exchange) : Prop :=
  ∃ before call refusal, talk = before ++ [⟨call, .error refusal⟩]

theorem Yields.refused_or_attribute {error : ApplyError}
    (yields : pass.Yields task talk (.error error)) : EndsRefused talk ∨ error.IsAttribute := by
  generalize outcome : Except.error error = result at yields
  cases yields with
  | presented workload reply =>
      cases reply with
      | ok answer => cases outcome
      | error refusal => exact .inl ⟨[], _, refusal, rfl⟩
  | untyped workload body refusal => exact .inl ⟨[], _, refusal, rfl⟩
  | untold workload body traitType failed =>
      cases outcome
      exact .inr trivial
  | equipped workload body traitType reply told =>
      cases reply with
      | ok answer => cases outcome
      | error refusal => exact .inl ⟨[_], _, refusal, rfl⟩
  | unfetched visit refusal minded => exact .inl ⟨[], _, refusal, rfl⟩
  | gone visit refusal tolerated => cases outcome
  | unrevised visit scope failed =>
      cases outcome
      exact .inr trivial
  | settled visit scope same => cases outcome
  | revised visit scope reply made =>
      cases reply with
      | ok answer => cases outcome
      | error refusal => exact .inl ⟨[_], _, refusal, rfl⟩

theorem Yields.ne_nil (yields : pass.Yields task talk result) : talk ≠ [] := by
  cases yields <;> exact List.cons_ne_nil _ _

theorem Course.ok_of_nil {tasks : List Task} (course : pass.Course tasks talk result)
    (silent : talk = []) : result = .ok () := by
  cases course with
  | finished => rfl
  | went here onward => exact absurd (List.append_eq_nil_iff.mp silent).1 here.ne_nil
  | failed rest here => exact absurd silent here.ne_nil

/-- What comes of a refusal that a pass meets on its way: it is tolerated for the task that was
reached, or it is the last reply of all and is told. -/
def Meets (pass : Pass) (before : List Exchange) (call : Call) (refusal : StoreError)
    (after : List Exchange) (result : Except ApplyError Unit) : Prop :=
  ∃ task begun, pass.Reaches pass.tasks before task begun ∧
    (pass.Tolerates task begun call refusal ∧ (after = [] → result = .ok ()) ∨
      after = [] ∧ ∃ error, pass.Blames task begun call refusal error ∧ result = .error error)

theorem Course.refused (course : pass.Course pass.tasks talk result)
    {before after : List Exchange} {call : Call} {refusal : StoreError}
    (split : talk = before ++ ⟨call, .error refusal⟩ :: after) :
    pass.Meets before call refusal after result := by
  obtain ⟨task, begun, reaches, outcome⟩ := course.reaches split
  refine ⟨task, begun, reaches, ?_⟩
  rcases outcome with ⟨here, later, rest, rfl, yields, onward⟩ | ⟨failed, yields⟩
  · obtain ⟨rfl, ⟨tolerated, -⟩ | ⟨error, -, impossible⟩⟩ := yields.refused reaches.mem rfl
    · exact .inl ⟨tolerated, onward.ok_of_nil⟩
    · cases impossible
  · obtain ⟨rfl, ⟨-, succeeded⟩ | blamed⟩ := yields.refused reaches.mem rfl
    · exact absurd succeeded failed
    · exact .inr ⟨rfl, blamed⟩

theorem Course.refused_or_attribute {tasks : List Task} (course : pass.Course tasks talk result)
    {error : ApplyError} (failed : result = .error error) :
    EndsRefused talk ∨ error.IsAttribute := by
  obtain ⟨task, before, here, -, rfl, yields⟩ := course.fails failed
  rcases yields.refused_or_attribute with ⟨earlier, call, refusal, rfl⟩ | unwritable
  · exact .inl ⟨before ++ earlier, call, refusal, (List.append_assoc _ _ _).symm⟩
  · exact .inr unwritable

/-- A pass fails with the first refusal that it does not tolerate: no call comes after it, and the
error is the one that tells it for the task that was reached. A pass that does not end with a
refusal succeeds, or fails since a body cannot be written as it is to be. -/
theorem fails_at_first_refusal {State : Type} (pass : Pass) (request : Request)
    (client : Client State) (state : State) :
    let run := pass.run request client.live state
    (∀ before call refusal after, run.exchanges = before ++ ⟨call, .error refusal⟩ :: after →
      ∃ task begun, pass.Reaches pass.tasks before task begun ∧
        (pass.Tolerates task begun call refusal ∧ (after = [] → run.result = .ok ()) ∨
          after = [] ∧ ∃ error, pass.Blames task begun call refusal error ∧
            run.result = .error error)) ∧
      (¬ EndsRefused run.exchanges →
        run.result = .ok () ∨ ∃ error, run.result = .error error ∧ error.IsAttribute) := by
  have course := pass.course_run client request state
  constructor
  · intro before call refusal after split
    exact course.refused split
  · intro accepted
    cases outcome : (pass.run request client.live state).result with
    | ok value => exact .inl rfl
    | error error =>
        rcases course.refused_or_attribute outcome with refused | unwritable
        · exact absurd refused accepted
        · exact .inr ⟨error, rfl, unwritable⟩

def succession : Pass where
  config := { ignoreMissingScopeOnRemoval := false }
  recorded := [{
    reference := { apiVersion := "v1", kind := "Web", name := "old" }
    scopes := [⟨{ apiVersion := "v1", kind := "Scope", name := "s" }⟩] }]
  workloads := [{ body := (Resource.new "v1" "Web" "new").withNamespace "n" }]

theorem succession_misses_scope :
    let client : Client MemoryStore := fun call store => store.answer call
    let run := succession.run { requestId := "r" } client.live {}
    let key : Reference := { apiVersion := "v1", kind := "Scope", name := "s", space? := some "n" }
    let missed : ApplyError :=
      .getScope key { apiVersion := "v1", kind := "Web", name := "old", space? := some "n" }
        (.missing key)
    run.result = .error missed ∧
      ∃ task begun, succession.Reaches succession.tasks (run.exchanges.take 1) task begun ∧
        succession.Blames task begun (.get key) (.missing key) missed := by
  intro client run key missed
  obtain ⟨refused, -⟩ :=
    fails_at_first_refusal succession { requestId := "r" } client {}
  obtain ⟨task, begun, reaches, ⟨tolerated, -⟩ | ⟨-, error, blames, failed⟩⟩ :=
    refused (run.exchanges.take 1) (.get key) (.missing key) [] rfl
  · obtain ⟨visit, -, -, -, -, -, minded⟩ := tolerated
    cases minded
  · have same : error = missed := Except.error.inj (failed.symm.trans rfl)
    rw [same] at blames
    exact ⟨rfl, task, begun, reaches, blames⟩

end Pass

end Rollout
