import Rollout.Proofs.Convergence
import Rollout.Proofs.Disturbance

/-! Isolation of namespaces. A task touches an object only under the key of a body that is upserted,
or under one that the key of a visited scope names. Where all that a pass is given lies in one
namespace or leaves it out, no object of another namespace is touched, as long as there is a
workload whose namespace the rest can inherit. -/

set_option autoImplicit false

namespace Rollout

open Enrolment (Visit)

/-- The task may change what is stored under the key: it upserts a body that has it, or visits a
scope that it may be the key of. -/
def Task.Touches (types : TraitTypes) (key : Key) (task : Task) : Prop :=
  match task with
  | .visit planned => Key.Names planned.key key
  | other => ∃ body, other.upserted? types = some body ∧ body.key = key

theorem Task.exists_inject_of_equipped? {types : TraitTypes} {workload : Reference}
    {body upserted : Resource} (equips : equipped? types workload body = some upserted) :
    ∃ traitType : TraitType,
      (body.inject traitType.injectionPath? workload).resource = upserted := by
  unfold equipped? at equips
  split at equips
  next => cases equips
  next traitType known =>
    dsimp only at equips
    split at equips
    · cases equips
    · exact ⟨traitType, Option.some.inj equips⟩

namespace Pass

variable (pass : Pass) {store : MemoryStore} {key : Key}

theorem lookup?_effect_of_not_touches {task : Task}
    (apart : ¬ task.Touches store.traitDefinition key) :
    (pass.effect store task).lookup? key = store.lookup? key := by
  have elsewhere {body : Resource} (upserts : task.upserted? store.traitDefinition = some body)
      (touches : body.key = key → task.Touches store.traitDefinition key) :
      (pass.effect store task).lookup? key = store.lookup? key := by
    rw [effect_of_upserted upserts]
    exact MemoryStore.lookup?_insert_of_ne (fun same => apart (touches same)) store
  cases task with
  | present workload => exact elsewhere rfl fun same => ⟨_, rfl, same⟩
  | equip workload trait =>
      cases upserts : Task.upserted? store.traitDefinition (.equip workload trait) with
      | none => simp only [effect, upserts]
      | some body => exact elsewhere upserts fun same => ⟨body, upserts, same⟩
  | visit visit =>
      simp only [effect]
      cases found : store.find? visit.key with
      | none => rfl
      | some scope =>
          have named := MemoryStore.names_of_find? found
          apply MemoryStore.lookup?_insert_of_ne
          intro same
          rw [visit.key_amend] at same
          subst same
          exact apart named

theorem lookup?_after_of_not_touches {tasks : List Task}
    (apart : ∀ task ∈ tasks, ¬ task.Touches store.traitDefinition key) :
    (pass.after store tasks).lookup? key = store.lookup? key := by
  induction tasks generalizing store with
  | nil => rfl
  | cons task rest ih =>
      have first := pass.lookup?_effect_of_not_touches (apart task List.mem_cons_self)
      refine Eq.trans (ih ?_) first
      intro other member
      rw [pass.traitDefinition_effect]
      exact apart other (List.mem_cons_of_mem _ member)

end Pass

namespace Reference

/-- The reference lies in the namespace, or leaves it out. -/
def Within (reference : Reference) (space : String) : Prop :=
  reference.space? = none ∨ reference.space? = some space

instance (reference : Reference) (space : String) : Decidable (reference.Within space) := by
  unfold Within; infer_instance

variable {reference scope workload : Reference} {space : String}

theorem Within.inheritNamespace {space? : Option String} (within : reference.Within space)
    (its : space? = none ∨ space? = some space) :
    (reference.inheritNamespace space?).Within space := by
  rcases within with absent | own
  · rcases its with rfl | rfl
    · exact .inl (by simp [Reference.inheritNamespace, absent])
    · exact .inr (by simp [Reference.inheritNamespace, absent])
  · exact .inr (by simp [Reference.inheritNamespace, own])

theorem Within.scopeKey (within : scope.Within space) (its : workload.Within space) :
    (scope.scopeKey workload).Within space :=
  within.inheritNamespace its

theorem Within.space?_scopeKey (within : scope.Within space)
    (inSpace : workload.space? = some space) : (scope.scopeKey workload).space? = some space := by
  rcases within.scopeKey (.inr inSpace) with nowhere | there
  · obtain ⟨-, absent⟩ := scopeKey_eq_none nowhere
    rw [inSpace] at absent
    cases absent
  · exact there

theorem space_of_names {key : Key} (inSpace : reference.space? = some space)
    (names : Key.Names reference key) : key.space = space := by
  obtain ⟨-, -, -, absent | same⟩ := names
  · rw [inSpace] at absent
    cases absent
  · rw [inSpace] at same
    exact (Option.some.inj same).symm

/-- No text of a member entry stands where a resource keeps its namespace, nor where that would be
if the entry were put above. -/
theorem textAt?_entry (reference : Reference) {names rest : List String}
    (split : ["metadata", "namespace"] = names ++ rest) :
    reference.entry.textAt? rest = none := by
  match names, rest, split with
  | [], _, rfl => rfl
  | [_], _, rfl => rfl
  | [_, _], _, rfl => rfl

end Reference

theorem Resource.space?_inject (body : Resource) (path? : Option String) (workload : Reference) :
    (body.inject path? workload).resource.space? = body.space? ∨
      (body.inject path? workload).resource.space? = none := by
  unfold inject
  cases path?.filter (· ≠ "") with
  | none => exact .inl rfl
  | some path =>
      simp only [space?, metadataField?_eq_textAt?]
      rcases body.textAt?_set_cases path workload.entry ["metadata", "namespace"] with
        kept | ⟨-, above, rest, split, -, put⟩
      · exact .inl kept
      · exact .inr (put.trans (workload.textAt?_entry split))

namespace Pass

/-- The workloads lie in the namespace, and what goes with them or was recorded lies there or leaves
it out. -/
structure Confined (pass : Pass) (space : String) : Prop where
  workloads : ∀ workload ∈ pass.workloads, workload.body.space? = some space
  traits : ∀ workload ∈ pass.workloads, ∀ trait ∈ workload.traits, trait.reference.Within space
  scopes : ∀ workload ∈ pass.workloads, ∀ scope ∈ workload.scopes, scope.reference.Within space
  statuses : ∀ status ∈ pass.recorded, status.reference.Within space
  recorded : ∀ status ∈ pass.recorded, ∀ scope ∈ status.scopeReferences, scope.Within space

/-- Without workloads there is no namespace to inherit, and a scope that was recorded without one,
for a workload without one, is looked for in all of them. -/
def Strays (pass : Pass) (key : Key) : Prop :=
  pass.workloads = [] ∧ ∃ status ∈ pass.orphans, status.reference.space? = none ∧
    ∃ scope ∈ status.scopeReferences, scope.space? = none ∧ Key.Names scope key

namespace Confined

variable {pass : Pass} {space : String} {key : Key}

theorem space_of_upserted (confined : pass.Confined space) {types : TraitTypes} {task : Task}
    {body : Resource} (planned : task ∈ pass.tasks) (upserts : task.upserted? types = some body) :
    body.key.space = space ∨ body.key.space = "" := by
  have within {resource : Resource} (its : resource.reference.Within space) :
      resource.key.space = space ∨ resource.key.space = "" := by
    rcases its with absent | own
    · exact .inr (congrArg (Option.getD · "") absent)
    · exact .inl (congrArg (Option.getD · "") own)
  cases task with
  | visit visit => cases upserts
  | present workload =>
      cases upserts
      have member := (pass.present_mem_tasks_iff workload).mp planned
      exact within (.inr (confined.workloads workload member))
  | equip reference trait =>
      obtain ⟨workload, member, equips, -⟩ := (pass.equip_mem_tasks_iff reference trait).mp planned
      obtain ⟨traitType, rfl⟩ := Task.exists_inject_of_equipped? upserts
      rcases trait.space?_inject traitType.injectionPath? reference with kept | absent
      · have own := confined.traits workload member trait equips
        rw [Reference.Within, Resource.reference, ← kept] at own
        exact within own
      · exact within (.inl absent)

theorem space?_cases (confined : pass.Confined space) :
    pass.workloads = [] ∧ pass.space? = none ∨ pass.space? = some space := by
  by_cases empty : pass.workloads = []
  · exact .inl ⟨empty, by simp [Pass.space?, empty]⟩
  · obtain ⟨workload, member, same⟩ := exists_space?_of_inhabited empty fun workload member =>
      ⟨space, confined.workloads workload member⟩
    exact .inr (same.trans (confined.workloads workload member))

/-- An orphan leaves its scopes in the namespace, unless none is known for it and the scope. -/
theorem space_of_left (confined : pass.Confined space) {status : WorkloadStatus}
    (present : status ∈ pass.orphans) {scope : Reference} (known : scope ∈ status.scopeReferences)
    (names : Key.Names (scope.scopeKey (pass.orphan status)) key) :
    key.space = space ∨ pass.Strays key := by
  obtain ⟨-, recorded, -⟩ := (pass.mem_orphans_iff status).mp present
  have lies := confined.statuses status recorded
  have within := confined.recorded status recorded scope known
  have orphaned : (pass.orphan status).Within space :=
    lies.inheritNamespace (confined.space?_cases.imp And.right id)
  rcases within.scopeKey orphaned with nowhere | there
  · obtain ⟨absent, astray⟩ := Reference.scopeKey_eq_none nowhere
    refine .inr ⟨?_, status, present, ?_, scope, known, absent, ?_⟩
    · rcases confined.space?_cases with ⟨empty, -⟩ | shared
      · exact empty
      · obtain ⟨own, its⟩ := exists_space?_orphan shared status
        rw [its] at astray
        cases astray
    · rcases lies with absent | own
      · exact absent
      · simp [orphan, Reference.inheritNamespace, own] at astray
    · obtain ⟨version, kind, name, -⟩ := names
      exact ⟨version, kind, name, .inl absent⟩
  · exact .inl (Reference.space_of_names there names)

theorem space_of_visited (confined : pass.Confined space) {visit : Visit}
    (planned : .visit visit ∈ pass.tasks) (names : Key.Names visit.key key) :
    key.space = space ∨ pass.Strays key := by
  rcases (pass.visit_mem_tasks_iff visit).mp planned with
    ⟨workload, member, -, ⟨-, joined⟩ | ⟨-, left⟩⟩ | ⟨status, present, -, -, left⟩
  · obtain ⟨scope, desired, its⟩ := ScopePlan.desired_of_mem_toAdd joined
    have within := confined.scopes workload member scope desired
    rw [← its] at names
    exact .inl (Reference.space_of_names
      (within.space?_scopeKey (confined.workloads workload member)) names)
  · obtain ⟨⟨scope, known, its⟩, -⟩ := ScopePlan.recorded_of_mem_toRemove left
    obtain ⟨status, recorded, -, listed⟩ := exists_status_of_recorded known
    have within := confined.recorded status recorded scope listed
    rw [← its] at names
    exact .inl (Reference.space_of_names
      (within.space?_scopeKey (confined.workloads workload member)) names)
  · obtain ⟨⟨scope, known, its⟩, -⟩ := ScopePlan.recorded_of_mem_toRemove left
    rw [← its] at names
    exact confined.space_of_left present known names

theorem space_of_touches (confined : pass.Confined space) {types : TraitTypes} {task : Task}
    (planned : task ∈ pass.tasks) (touches : task.Touches types key) :
    key.space = space ∨ key.space = "" ∨ pass.Strays key := by
  cases task with
  | visit visit =>
      rcases confined.space_of_visited planned touches with own | strays
      · exact .inl own
      · exact .inr (.inr strays)
  | _ =>
      obtain ⟨body, upserts, rfl⟩ := touches
      rcases confined.space_of_upserted planned upserts with own | absent
      · exact .inl own
      · exact .inr (.inl absent)

end Confined

/-- Whether it succeeds or fails, a pass leaves every object of another namespace as it was, unless
it has no workloads and a scope goes astray. -/
theorem foreign_objects_unchanged {State : Type} (pass : Pass) (space : String) (request : Request)
    (world : World State) (stored : State → MemoryStore) (state : State) (key : Key)
    (disturbs : world.Disturbs stored) (confined : pass.Confined space)
    (foreign : key.space ≠ space) (spaced : key.space ≠ "") (aimed : ¬ pass.Strays key) :
    (stored (pass.run request world state).state).lookup? key = (stored state).lookup? key := by
  obtain ⟨done, remnant, left⟩ := remnant_of_run disturbs pass request state
  rw [left]
  apply pass.lookup?_after_of_not_touches
  intro task carried touches
  rcases confined.space_of_touches (remnant.subset carried) touches with own | absent | strays
  · exact foreign own
  · exact spaced absent
  · exact aimed strays

theorem handover_leaves_far_scope :
    let far : Resource := .scopeWith "far" "s" predecessor.reference
    let final :=
      (handover.run { requestId := "r" } MemoryStore.world (handoverStore.insert far)).state
    final.lookup? far.key = some far ∧
      final.lookup? { far.key with space := "n" } =
        some (.scopeWith "n" "s" successor.reference) := by
  have kept := foreign_objects_unchanged handover "n" { requestId := "r" } MemoryStore.world id
    (handoverStore.insert (.scopeWith "far" "s" predecessor.reference))
    (Resource.scopeWith "far" "s" predecessor.reference).key MemoryStore.disturbs_world
    ⟨by decide, by decide, by decide, by decide, by decide⟩ (by decide) (by decide) (nomatch ·.1)
  rw [id, id, MemoryStore.lookup?_insert_self] at kept
  exact ⟨kept, by rfl⟩

def drifter : WorkloadStatus where
  reference := { apiVersion := "v1", kind := "Web", name := "w" }
  scopes := [⟨{ apiVersion := "v1", kind := "Scope", name := "s" }⟩]

def drifting : Pass where
  recorded := [drifter]

def farScope : Resource := .scopeWith "far" "s" drifter.reference

/-- Without workloads an orphan may be taken off a scope of any namespace. -/
theorem reaches_far_scope_without_workloads :
    ¬ ∀ (pass : Pass) (space : String) (request : Request) (store : MemoryStore) (key : Key),
      pass.Confined space → key.space ≠ space → key.space ≠ "" →
        (pass.run request MemoryStore.world store).state.lookup? key = store.lookup? key := by
  intro isolated
  have kept := isolated drifting "home" { requestId := "r" } (.holding [farScope]) farScope.key
    ⟨by decide, by decide, by decide, by decide, by decide⟩ (by decide) (by decide)
  have after : (drifting.run { requestId := "r" } MemoryStore.world
      (.holding [farScope])).state.lookup? farScope.key =
        some (farScope.set "spec.workloadRefs" (.array [])).resource := by rfl
  have before : (MemoryStore.holding [farScope]).lookup? farScope.key = some farScope := by rfl
  rw [after, before] at kept
  have members : (.ok (.array []) : Except PathError Tree) =
      .ok (.array [drifter.reference.entry]) :=
    congrArg (·.get "spec.workloadRefs") (Option.some.inj kept)
  cases members

end Pass

end Rollout
