import Rollout.Proofs.Effect
import Rollout.Proofs.Lookup

/-! What tasks make of what a store holds at one key. At the key of a visited scope only visits
act, and each amends what is there. A visit once made stays settled as long as no later visit of
that scope speaks against it. -/

set_option autoImplicit false

namespace Rollout

open Enrolment (Visit)

variable {types : TraitTypes} {tasks : List Task} {visit : Visit}

/-- What a store holds at a key after a task, from what it held there before. -/
def Task.touch (config : Config) (types : TraitTypes) (key : Key) (task : Task)
    (held : Option Resource) : Option Resource :=
  match task with
  | .visit visit => if visit.key.storeKey = key then held.map (visit.amend config) else held
  | other =>
    match other.upserted? types with
    | some body => if body.key = key then some body else held
    | none => held

def Task.touchAll (config : Config) (types : TraitTypes) (key : Key) (tasks : List Task)
    (held : Option Resource) : Option Resource :=
  tasks.foldl (fun held task => task.touch config types key held) held

namespace Enrolment.Visit

variable {config : Config} {held : Option Resource}

def SettledIn (config : Config) (visit : Visit) (held : Option Resource) : Prop :=
  ∀ scope, held = some scope → visit.Settled config scope

theorem settledIn_map (possible : visit.Possible config held) :
    visit.SettledIn config (held.map (visit.amend config)) := by
  cases held with
  | none => exact nofun
  | some scope =>
      rintro _ ⟨⟩
      exact settled_amend possible

theorem SettledIn.map {other : Visit} (settled : visit.SettledIn config held)
    (agree : visit.Agrees other) : visit.SettledIn config (held.map (other.amend config)) := by
  cases held with
  | none => exact nofun
  | some scope =>
      rintro _ ⟨⟩
      exact (settled scope rfl).amend_other agree

theorem SettledIn.map_self (settled : visit.SettledIn config held) :
    held.map (visit.amend config) = held := by
  cases held with
  | none => rfl
  | some scope => exact congrArg some (amend_of_settled (settled scope rfl))

theorem revised?_of_settledIn (settled : visit.SettledIn config held) :
    visit.revised? config held = none := by
  cases held with
  | none => rfl
  | some scope =>
      have same : revision config visit.change scope = .ok none := settled scope rfl
      simp only [revised?, Option.map_some, same]

theorem possible_map (visit other : Visit) (held : Option Resource) :
    visit.Possible config (held.map (other.amend config)) ↔ visit.Possible config held := by
  cases held with
  | none => exact Iff.rfl
  | some scope => exact feasible_amend visit other

end Enrolment.Visit

theorem Task.touch_cases_of_not_visit {task : Task} (upserting : task.visit? = none)
    (config : Config) (types : TraitTypes) (key : Key) :
    (∃ body, task.upserted? types = some body ∧ body.key = key ∧
        task.touch config types key = fun _ => some body) ∨
      task.touch config types key = id := by
  have touched : task.touch config types key = fun held =>
      match task.upserted? types with
      | some body => if body.key = key then some body else held
      | none => held := by
    cases task with
    | visit visit => cases upserting
    | _ => rfl
  rw [touched]
  cases task.upserted? types with
  | none => exact .inr rfl
  | some body =>
      by_cases same : body.key = key
      · exact .inl ⟨body, rfl, same, by simp only [if_pos same]⟩
      · apply Or.inr
        funext held
        simp only [if_neg same, id]

theorem Task.Apart.touch_cases (apart : Task.Apart types tasks) (visited : .visit visit ∈ tasks)
    {task : Task} (member : task ∈ tasks) (config : Config) :
    (∃ other, task = .visit other ∧ other.key = visit.key ∧
        task.touch config types visit.key.storeKey = Option.map (other.amend config)) ∨
      task.touch config types visit.key.storeKey = id := by
  cases its : task.visit? with
  | none =>
      rcases task.touch_cases_of_not_visit its config types visit.key.storeKey with
        ⟨body, upserts, same, -⟩ | kept
      · exact absurd same (apart.apart task member body upserts visit visited)
      · exact .inr kept
  | some other =>
      obtain rfl := visit?_eq_some_iff.mp its
      by_cases same : other.key.storeKey = visit.key.storeKey
      · refine .inl ⟨other, rfl, ?_, ?_⟩
        · exact (apart.placed other member).eq_of_storeKey (apart.placed visit visited) same
        · funext held
          simp only [touch, if_pos same]
      · apply Or.inr
        funext held
        simp only [touch, if_neg same, id]

theorem Task.Apart.touchAll_preserves (apart : Task.Apart types tasks)
    (visited : .visit visit ∈ tasks) {later : List Task} (members : later ⊆ tasks)
    {config : Config} (holds : Option Resource → Prop)
    (step : ∀ other, .visit other ∈ later → other.key = visit.key → ∀ held, holds held →
      holds (held.map (other.amend config)))
    {held : Option Resource} (before : holds held) :
    holds (Task.touchAll config types visit.key.storeKey later held) := by
  induction later generalizing held with
  | nil => exact before
  | cons task rest ih =>
      refine ih (fun _ member => members (List.mem_cons_of_mem _ member))
        (fun other member => step other (List.mem_cons_of_mem _ member)) ?_
      rcases apart.touch_cases visited (members List.mem_cons_self) config with
        ⟨other, rfl, sameKey, touched⟩ | kept
      · simp only [touched]
        exact step other List.mem_cons_self sameKey held before
      · simp only [kept, id]
        exact before

namespace Pass

variable {pass : Pass} {store : MemoryStore}

theorem lookup?_effect (pass : Pass) {task : Task}
    (placed : ∀ visit, task = .visit visit → visit.key.Placed)
    (store : MemoryStore) (key : Key) :
    (pass.effect store task).lookup? key =
      task.touch pass.config store.traitDefinition key (store.lookup? key) := by
  cases task with
  | present workload => exact store.lookup?_insert workload.body key
  | equip workload body =>
      simp only [effect, Task.touch]
      cases Task.upserted? store.traitDefinition (.equip workload body) with
      | none => rfl
      | some equipped => exact store.lookup?_insert equipped key
  | visit visit =>
      simp only [effect, Task.touch, MemoryStore.find?_of_placed (placed visit rfl)]
      by_cases same : visit.key.storeKey = key
      · rw [if_pos same, ← same]
        cases found : store.lookup? visit.key.storeKey with
        | none => exact found
        | some scope =>
            simp only [MemoryStore.lookup?_insert, Visit.key_amend,
              MemoryStore.key_of_lookup? found, if_true, Option.map_some]
      · rw [if_neg same]
        cases found : store.lookup? visit.key.storeKey with
        | none => rfl
        | some scope =>
            simp only [MemoryStore.lookup?_insert, Visit.key_amend,
              MemoryStore.key_of_lookup? found, if_neg same]

theorem lookup?_after (placed : ∀ visit, .visit visit ∈ tasks → visit.key.Placed)
    (store : MemoryStore) (key : Key) :
    (pass.after store tasks).lookup? key =
      Task.touchAll pass.config store.traitDefinition key tasks (store.lookup? key) := by
  induction tasks generalizing store with
  | nil => rfl
  | cons task rest ih =>
      have later := ih (fun visit visited => placed visit (List.mem_cons_of_mem _ visited))
        (pass.effect store task)
      rw [pass.traitDefinition_effect, pass.lookup?_effect ?_] at later
      · exact later
      · rintro visit rfl
        exact placed visit List.mem_cons_self

theorem find?_after {later : List Task} (apart : Task.Apart store.traitDefinition tasks)
    (visited : .visit visit ∈ tasks) (members : later ⊆ tasks) :
    (pass.after store later).find? visit.key =
      Task.touchAll pass.config store.traitDefinition visit.key.storeKey later
        (store.find? visit.key) := by
  have placed := apart.placed visit visited
  rw [MemoryStore.find?_of_placed placed, MemoryStore.find?_of_placed placed, lookup?_after]
  intro other member
  exact apart.placed other (members member)

theorem find?_effect_self (pass : Pass) (store : MemoryStore) (visit : Visit) :
    (pass.effect store (.visit visit)).find? visit.key =
      (store.find? visit.key).map (visit.amend pass.config) := by
  simp only [effect]
  cases found : store.find? visit.key with
  | none => exact found
  | some scope => exact MemoryStore.find?_insert_of_find? found visit.key_amend

theorem find?_effect_of_not_matches {key : Reference} (apart : ¬ visit.key.Matches key)
    (pass : Pass) (store : MemoryStore) :
    (pass.effect store (.visit visit)).find? key = store.find? key := by
  simp only [effect]
  cases found : store.find? visit.key with
  | none => rfl
  | some scope =>
      refine MemoryStore.find?_insert_of_not_names ?_ store
      rw [visit.key_amend]
      intro names
      exact apart (Key.matches_of_names (MemoryStore.names_of_find? found) names)

/-- The scope of the visit is gone, or needs no further change. -/
def Done (pass : Pass) (store : MemoryStore) (visit : Visit) : Prop :=
  visit.SettledIn pass.config (store.find? visit.key)

theorem done_effect (ready : pass.Ready store (.visit visit)) :
    pass.Done (pass.effect store (.visit visit)) visit := by
  unfold Done
  rw [find?_effect_self]
  exact Visit.settledIn_map ready

theorem done_after {later : List Task} (apart : Task.Apart store.traitDefinition tasks)
    (visited : .visit visit ∈ tasks) (members : later ⊆ tasks)
    (agree : ∀ other, .visit other ∈ later → other.key = visit.key → visit.Agrees other)
    (before : pass.Done store visit) : pass.Done (pass.after store later) visit := by
  unfold Done
  rw [find?_after apart visited members]
  refine apart.touchAll_preserves visited members (visit.SettledIn pass.config) ?_ before
  intro other member sameKey held settled
  exact settled.map (agree other member sameKey)

theorem ready_after {later : List Task} (apart : Task.Apart store.traitDefinition tasks)
    (visited : .visit visit ∈ tasks) (members : later ⊆ tasks) :
    pass.Ready (pass.after store later) (.visit visit) ↔ pass.Ready store (.visit visit) := by
  simp only [Ready]
  rw [find?_after apart visited members]
  refine apart.touchAll_preserves visited members
    (fun held => visit.Possible pass.config held ↔ _) ?_ Iff.rfl
  intro other member sameKey held same
  exact (Visit.possible_map visit other held).trans same

/-- The pass makes the visit, and no later visit of the scope speaks against it. -/
def Decides (pass : Pass) (visit : Visit) : Prop :=
  ∃ before later, pass.tasks = before ++ .visit visit :: later ∧
    ∀ other, .visit other ∈ later → other.key = visit.key → visit.Agrees other

theorem mem_of_decides (decides : pass.Decides visit) : .visit visit ∈ pass.tasks := by
  obtain ⟨before, later, split, -⟩ := decides
  rw [split]
  exact List.mem_append_right _ List.mem_cons_self

theorem done_of_decides (decides : pass.Decides visit) (smooth : pass.Smooth store pass.tasks)
    (apart : Task.Apart store.traitDefinition pass.tasks) :
    pass.Done (pass.after store pass.tasks) visit := by
  have visited := mem_of_decides decides
  obtain ⟨before, later, split, agree⟩ := decides
  have members : later ⊆ pass.tasks := by
    intro task member
    rw [split]
    exact List.mem_append_right _ (List.mem_cons_of_mem _ member)
  have now := done_effect (smooth_iff.mp smooth before _ later split)
  have last : pass.after store pass.tasks =
      pass.after (pass.effect (pass.after store before) (.visit visit)) later := by
    rw [split]
    simp only [after, List.foldl_append, List.foldl_cons]
  rw [last]
  refine done_after ?_ visited members agree now
  rwa [pass.traitDefinition_effect, pass.traitDefinition_after]

theorem ready_of_smooth (smooth : pass.Smooth store tasks)
    (apart : Task.Apart store.traitDefinition tasks) (visited : .visit visit ∈ tasks) :
    pass.Ready store (.visit visit) := by
  obtain ⟨before, later, split⟩ := List.append_of_mem visited
  have members : before ⊆ tasks := by
    rw [split]
    exact List.subset_append_left _ _
  exact (ready_after apart visited members).mp (smooth_iff.mp smooth before _ later split)

theorem found_of_joins (joins : visit.joins = true) (smooth : pass.Smooth store tasks)
    (apart : Task.Apart store.traitDefinition tasks) (visited : .visit visit ∈ tasks) :
    ∃ scope, (pass.after store tasks).find? visit.key = some scope := by
  have ready := (ready_after apart visited fun _ member => member).mpr
    (ready_of_smooth smooth apart visited)
  cases found : (pass.after store tasks).find? visit.key with
  | some scope => exact ⟨scope, rfl⟩
  | none => simp [Ready, Visit.Possible, found, Visit.tolerates, joins] at ready

end Pass

end Rollout
