import Rollout.Proofs.Convergence
import Rollout.Proofs.Disturbance

/-! Repair. Where no visit speaks against another, the tasks of a pass make the same of a store
whether or not some of them have been carried out before. So a pass that was broken off is made
good by another run, and a run after one that succeeded has nothing to change. -/

set_option autoImplicit false

namespace Rollout

open Enrolment (Visit)

namespace Task

variable {types : TraitTypes} {tasks rest done : List Task} {config : Config} {key : Key}

/-- No visit is to join a scope that another is to leave for the same member. -/
def Concordant (tasks : List Task) : Prop :=
  ∀ first second, .visit first ∈ tasks → .visit second ∈ tasks → first.key = second.key →
    first.Agrees second

theorem Apart.map_touchAll (apart : Apart types tasks) (concord : Concordant tasks) {visit : Visit}
    (visited : .visit visit ∈ tasks) (leaves : visit.joins = false) (members : rest ⊆ tasks)
    (held : Option Resource) :
    (touchAll config types visit.key.storeKey rest held).map (visit.amend config) =
      touchAll config types visit.key.storeKey rest (held.map (visit.amend config)) := by
  induction rest generalizing held with
  | nil => rfl
  | cons task rest ih =>
      have member := members List.mem_cons_self
      have swap : (task.touch config types visit.key.storeKey held).map (visit.amend config) =
          task.touch config types visit.key.storeKey (held.map (visit.amend config)) := by
        rcases apart.touch_cases visited member config with ⟨other, rfl, sameKey, touched⟩ | kept
        · have agree := concord visit other visited member sameKey.symm
          simp only [touched, Option.map_map, Function.comp_def, Visit.amend_comm leaves agree]
        · rw [kept]
          rfl
      have later := ih (fun _ deeper => members (List.mem_cons_of_mem _ deeper))
        (task.touch config types visit.key.storeKey held)
      rw [swap] at later
      exact later

theorem Apart.touch_again (apart : Apart types tasks) (concord : Concordant tasks) {task : Task}
    (member : task ∈ tasks) (members : done ⊆ tasks) {held : Option Resource}
    (possible : ∀ visit, .visit visit ∈ tasks → visit.key.storeKey = key →
      visit.Possible config held) :
    let once := task.touch config types key held
    task.touch config types key (touchAll config types key done once) =
        touchAll config types key done once ∨
      task.touch config types key (touchAll config types key done once) = once := by
  cases its : task.visit? with
  | none =>
      rcases task.touch_cases_of_not_visit its config types key with ⟨body, -, -, put⟩ | kept
      · exact .inr (by simp only [put])
      · exact .inl (by simp only [kept, id])
  | some visit =>
      obtain rfl := visit?_eq_some_iff.mp its
      simp only [touch]
      by_cases here : visit.key.storeKey = key
      · subst here
        simp only [if_true]
        refine .inl (Visit.SettledIn.map_self (apart.touchAll_preserves member members
          (visit.SettledIn config) ?_ (Visit.settledIn_map (possible visit member rfl))))
        intro other present sameKey held settled
        exact settled.map (concord visit other member (members present) sameKey.symm)
      · simp only [if_neg here, true_or]

theorem Apart.possible_touch (apart : Apart types tasks) {task : Task} (member : task ∈ tasks)
    {held : Option Resource} {visit : Visit} (visited : .visit visit ∈ tasks)
    (possible : visit.Possible config held) :
    visit.Possible config (task.touch config types visit.key.storeKey held) := by
  rcases apart.touch_cases visited member config with ⟨other, -, -, touched⟩ | kept
  · rw [touched]
    exact (visit.possible_map other held).mpr possible
  · rw [kept]
    exact possible

theorem Apart.touchAll_remnant (apart : Apart types tasks) (concord : Concordant tasks)
    (members : rest ⊆ tasks) (remnant : Remnant rest done) {held : Option Resource}
    (possible : ∀ visit, .visit visit ∈ tasks → visit.key.storeKey = key →
      visit.Possible config held) :
    touchAll config types key rest (touchAll config types key done held) =
      touchAll config types key rest held := by
  induction remnant generalizing held with
  | stopped rest => rfl
  | @carried task rest done later ih =>
      have deeper : rest ⊆ tasks := fun _ member => members (List.mem_cons_of_mem _ member)
      have member := members List.mem_cons_self
      have again := apart.touch_again concord member
        (fun _ carried => deeper (later.subset carried)) possible
      have tail : touchAll config types key rest
            (touchAll config types key done (task.touch config types key held)) =
          touchAll config types key rest (task.touch config types key held) := by
        apply ih deeper
        rintro visit visited rfl
        exact apart.possible_touch member visited (possible visit visited rfl)
      rcases again with absorbed | anew
      · exact (congrArg (touchAll config types key rest) absorbed).trans tail
      · exact congrArg (touchAll config types key rest) anew
  | @skipped visit leaves rest done later ih =>
      have deeper : rest ⊆ tasks := fun _ member => members (List.mem_cons_of_mem _ member)
      have member := members List.mem_cons_self
      have swap : touch config types key (.visit visit) (touchAll config types key done held) =
          touchAll config types key done (touch config types key (.visit visit) held) := by
        simp only [touch]
        by_cases here : visit.key.storeKey = key
        · subst here
          simp only [if_true]
          exact apart.map_touchAll concord member leaves
            (fun _ carried => deeper (later.subset carried)) held
        · simp only [if_neg here]
      have tail : touchAll config types key rest
            (touchAll config types key done (touch config types key (.visit visit) held)) =
          touchAll config types key rest (touch config types key (.visit visit) held) := by
        apply ih deeper
        rintro other visited rfl
        exact apart.possible_touch member visited (possible other visited rfl)
      exact (congrArg (touchAll config types key rest) swap).trans tail

end Task

namespace Pass

variable {pass : Pass} {store : MemoryStore} {tasks done : List Task}

theorem after_remnant (apart : Task.Apart store.traitDefinition tasks)
    (concord : Task.Concordant tasks) (smooth : pass.Smooth store tasks)
    (remnant : Task.Remnant tasks done) :
    pass.after (pass.after store done) tasks = pass.after store tasks := by
  apply MemoryStore.ext_lookup?
  · simp only [definitions_after]
  · intro key
    have placed : ∀ visit, .visit visit ∈ done → visit.key.Placed :=
      fun visit carried => apart.placed visit (remnant.subset carried)
    rw [lookup?_after apart.placed, lookup?_after placed, lookup?_after apart.placed,
      traitDefinition_after]
    refine apart.touchAll_remnant concord (fun _ member => member) remnant ?_
    rintro visit visited rfl
    rw [← MemoryStore.find?_of_placed (apart.placed visit visited)]
    exact ready_of_smooth smooth apart visited

theorem ready_after_of_plain (plain : pass.options = []) {task : Task} (member : task ∈ tasks)
    (apart : Task.Apart store.traitDefinition tasks) (members : done ⊆ tasks) :
    pass.Ready (pass.after store done) task ↔ pass.Ready store task := by
  cases task with
  | visit visit => exact ready_after apart member members
  | _ => simp only [Ready, traitDefinition_after, plain, MemoryStore.upsert_nil, and_true]

theorem smooth_after (plain : pass.options = []) (smooth : pass.Smooth store tasks)
    (apart : Task.Apart store.traitDefinition tasks) (members : done ⊆ tasks) :
    pass.Smooth (pass.after store done) tasks := by
  rw [smooth_iff] at smooth ⊢
  intro before task later split
  have member : task ∈ tasks := by
    rw [split]
    exact List.mem_append_right _ List.mem_cons_self
  have earlier : before ⊆ tasks := by
    rw [split]
    exact List.subset_append_left _ _
  have same : pass.after (pass.after store done) before = pass.after store (done ++ before) := by
    simp only [after, List.foldl_append]
  rw [same, ready_after_of_plain plain member apart (List.append_subset.mpr ⟨members, earlier⟩),
    ← ready_after_of_plain plain member apart earlier]
  exact smooth before task later split

theorem not_update_of_done (apart : Task.Apart store.traitDefinition tasks)
    (concord : Task.Concordant tasks)
    (done : ∀ visit, .visit visit ∈ tasks → pass.Done store visit) (role : Role)
    (body : Resource) : .update role body ∉ pass.callsOfAll store tasks := by
  intro made
  obtain ⟨before, task, later, split, called⟩ := mem_callsOfAll_iff.mp made
  have member : task ∈ tasks := by
    rw [split]
    exact List.mem_append_right _ List.mem_cons_self
  have earlier : before ⊆ tasks := by
    rw [split]
    exact List.subset_append_left _ _
  cases task with
  | present workload => simp [callsOf] at called
  | equip workload trait => simp [callsOf] at called
  | visit visit =>
      have still : pass.Done (pass.after store before) visit := by
        refine done_after apart member earlier ?_ (done visit member)
        intro other present sameKey
        exact concord visit other member (earlier present) sameKey.symm
      rw [callsOf_visit, Enrolment.Visit.revised?_of_settledIn still] at called
      cases List.mem_singleton.mp called

end Pass

theorem MemoryStore.disturbs_cutWorld (position : Nat) (cut : Cut) :
    (MemoryStore.cutWorld position cut).Disturbs Prod.fst := by
  intro call state
  cases cut with
  | stopped reason => exact .inl ⟨rfl, rfl⟩
  | refused error =>
      by_cases here : state.2 = position
      · apply Or.inr
        simp [cutWorld, here]
      · apply Or.inl
        simp [cutWorld, here]

namespace Pass

/-- A pass over workloads that share a namespace, where it can succeed, ends in the same store
after a run that was cut off at any call, and after a run that succeeded it changes nothing. -/
theorem repairs (pass : Pass) (space : String) (request again : Request) (store : MemoryStore)
    (plain : pass.options = []) (shared : pass.SharesNamespace space)
    (separate : (pass.run request MemoryStore.world store).Separate)
    (succeeded : (pass.run request MemoryStore.world store).result = .ok ()) :
    let final := (pass.run request MemoryStore.world store).state
    (∀ position cut,
      let left := (pass.run request (MemoryStore.cutWorld position cut) (store, 0)).state.1
      let rerun := pass.run again MemoryStore.world left
      rerun.result = .ok () ∧ rerun.state = final) ∧
    let rerun := pass.run again MemoryStore.world final
    rerun.result = .ok () ∧ rerun.state = final ∧
      ∀ role body, .update role body ∉ rerun.calls := by
  have smooth := (pass.run_ok_iff request store).mp succeeded
  have apart := apart_of_separate shared.placed smooth separate
  have concord : Task.Concordant pass.tasks := fun _ _ one other => shared.agrees one other
  obtain ⟨-, -, final⟩ := run_of_smooth smooth request
  rw [final]
  have rerun {done : List Task} (remnant : Task.Remnant pass.tasks done) :
      (pass.run again MemoryStore.world (pass.after store done)).Goes
        (pass.callsOfAll (pass.after store done) pass.tasks) (pass.after store pass.tasks) := by
    have ends := run_of_smooth (smooth_after plain smooth apart remnant.subset) again
    rwa [after_remnant apart concord smooth remnant] at ends
  constructor
  · intro position cut
    obtain ⟨done, remnant, left⟩ :=
      remnant_of_run (MemoryStore.disturbs_cutWorld position cut) pass request (store, 0)
    rw [left]
    obtain ⟨result, -, state⟩ := rerun remnant
    exact ⟨result, state⟩
  · obtain ⟨result, calls, state⟩ := rerun (Task.Remnant.refl pass.tasks)
    refine ⟨result, state, ?_⟩
    intro role body
    rw [calls]
    refine not_update_of_done ?_ concord ?_ role body
    · rwa [traitDefinition_after]
    · intro visit planned
      exact done_of_decides (shared.decides planned) smooth apart

theorem repairs_handover :
    let run := handover.run { requestId := "r" } MemoryStore.world handoverStore
    let cut := handover.run { requestId := "r" }
      (MemoryStore.cutWorld 5 (.refused (.backend "down"))) (handoverStore, 0)
    let rerun := handover.run { requestId := "again" } MemoryStore.world cut.state.1
    cut.result = .error (.getScope
        { apiVersion := "v1", kind := "Scope", name := "t", space? := some "n" }
        successor.reference (.backend "down")) ∧
      rerun.result = .ok () ∧ rerun.state = run.state := by
  obtain ⟨repaired, -⟩ := repairs handover "n" { requestId := "r" } { requestId := "again" }
    handoverStore rfl handover_shared (by decide) rfl
  exact ⟨rfl, repaired 5 (.refused (.backend "down"))⟩

end Pass

end Rollout
