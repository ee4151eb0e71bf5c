import Rollout.Proofs.Convergence
import Rollout.Proofs.Lookup

/-! Reconciling one workload with a store. No two visits of a plan may be of one scope, also where
their keys tell no namespace, so that each finds its scope as it was at the start. A plan that was
carried out is settled: carried out again, it has nothing to write. -/

set_option autoImplicit false

namespace Rollout

namespace Enrolment

/-- No two of the visits may be of one scope. -/
def Parted (visits : List Visit) : Prop :=
  visits.Pairwise fun one other => ¬ one.key.Matches other.key

theorem parted_visits (member workload : Reference) (desired : List Resource)
    (recorded : List Reference) :
    Parted (visits member (ScopePlan.of workload desired recorded)) := by
  refine List.pairwise_append.mpr ⟨?_, ?_, ?_⟩
  · exact List.pairwise_map.mpr (ScopePlan.pairwise_collect _ _)
  · exact List.pairwise_map.mpr (ScopePlan.pairwise_collect _ _)
  · intro joining joined leaving left
    obtain ⟨key, toAdd, rfl⟩ := List.mem_map.mp joined
    obtain ⟨other, toRemove, rfl⟩ := List.mem_map.mp left
    exact (ScopePlan.recorded_of_mem_toRemove toRemove).2 key toAdd

theorem Parted.eq_of_matches {visits : List Visit} (parted : Parted visits) {one other : Visit}
    (first : one ∈ visits) (second : other ∈ visits) (matching : one.key.Matches other.key) :
    one = other :=
  eq_of_pairwise_not (fun _ _ => Reference.Matches.symm) parted first second matching

end Enrolment

open Enrolment (Visit Parted)

namespace Pass

variable {pass : Pass} {store : MemoryStore} {visit : Visit} {visits : List Visit}

theorem find?_after_of_not_matches {key : Reference}
    (apart : ∀ visit ∈ visits, ¬ visit.key.Matches key) (pass : Pass) (store : MemoryStore) :
    (pass.after store (visits.map .visit)).find? key = store.find? key := by
  induction visits generalizing store with
  | nil => rfl
  | cons first rest ih =>
      have later := ih (fun visit member => apart visit (List.mem_cons_of_mem _ member))
        (pass.effect store (.visit first))
      exact later.trans (find?_effect_of_not_matches (apart first List.mem_cons_self) pass store)

theorem find?_after_of_parted (parted : Parted visits) (member : visit ∈ visits) (pass : Pass)
    (store : MemoryStore) :
    (pass.after store (visits.map .visit)).find? visit.key =
      (store.find? visit.key).map (visit.amend pass.config) := by
  induction visits generalizing store with
  | nil => cases member
  | cons first rest ih =>
      obtain ⟨apart, tail⟩ := List.pairwise_cons.mp parted
      rcases List.mem_cons.mp member with rfl | later
      · have unmatched : ∀ other ∈ rest, ¬ other.key.Matches visit.key :=
          fun other present matching => apart other present matching.symm
        exact (find?_after_of_not_matches unmatched pass _).trans
          (pass.find?_effect_self store visit)
      · have before := find?_effect_of_not_matches (apart visit later) pass store
        exact (ih tail later _).trans (congrArg _ before)

theorem smooth_iff_of_parted (parted : Parted visits) :
    pass.Smooth store (visits.map .visit) ↔
      ∀ visit ∈ visits, visit.Possible pass.config (store.find? visit.key) := by
  induction visits generalizing store with
  | nil => simp [Smooth]
  | cons first rest ih =>
      obtain ⟨apart, tail⟩ := List.pairwise_cons.mp parted
      rw [List.map_cons, Smooth, ih tail, List.forall_mem_cons]
      refine and_congr_right fun _ => forall₂_congr fun visit later => ?_
      rw [find?_effect_of_not_matches (apart visit later)]

theorem callsOfAll_of_parted (parted : Parted visits) (pass : Pass) (store : MemoryStore) :
    pass.callsOfAll store (visits.map .visit) =
      visits.flatMap fun visit => pass.callsOf store (.visit visit) := by
  induction visits generalizing store with
  | nil => rfl
  | cons first rest ih =>
      obtain ⟨apart, tail⟩ := List.pairwise_cons.mp parted
      rw [List.map_cons, callsOfAll, ih tail, List.flatMap_cons]
      congr 1
      refine List.flatMap_congr fun visit later => ?_
      rw [callsOf_visit, callsOf_visit, find?_effect_of_not_matches (apart visit later)]

theorem done_after_of_parted (parted : Parted visits) (member : visit ∈ visits)
    (possible : visit.Possible pass.config (store.find? visit.key)) :
    pass.Done (pass.after store (visits.map .visit)) visit := by
  unfold Done
  rw [find?_after_of_parted parted member]
  exact Visit.settledIn_map possible

theorem lookup?_after_of_parted (parted : Parted visits) {key : Key}
    (elsewhere : ∀ visit ∈ visits, ∀ body,
      visit.revised? pass.config (store.find? visit.key) = some body → body.key ≠ key) :
    (pass.after store (visits.map .visit)).lookup? key = store.lookup? key := by
  induction visits generalizing store with
  | nil => rfl
  | cons first rest ih =>
      obtain ⟨apart, tail⟩ := List.pairwise_cons.mp parted
      have others : (pass.after (pass.effect store (.visit first)) (rest.map .visit)).lookup? key =
          (pass.effect store (.visit first)).lookup? key := by
        refine ih tail ?_
        intro visit later
        rw [find?_effect_of_not_matches (apart visit later)]
        exact elsewhere visit (List.mem_cons_of_mem first later)
      refine others.trans ?_
      cases revised : first.revised? pass.config (store.find? first.key) with
      | none => rw [effect_visit_of_not_revised revised]
      | some body =>
          rw [effect_visit_of_revised revised]
          exact MemoryStore.lookup?_insert_of_ne
            (elsewhere first List.mem_cons_self body revised) store

theorem lookup?_after_of_revised (parted : Parted visits) (member : visit ∈ visits)
    {body : Resource} (revised : visit.revised? pass.config (store.find? visit.key) = some body) :
    (pass.after store (visits.map .visit)).lookup? body.key = some body := by
  obtain ⟨scope, found, made⟩ := Visit.revised?_eq_some_iff.mp revised
  have after := find?_after_of_parted parted member pass store
  rw [found, Option.map_some, Visit.amend, made] at after
  exact MemoryStore.lookup?_of_find? after

theorem after_of_done (done : ∀ visit ∈ visits, pass.Done store visit) :
    pass.after store (visits.map .visit) = store ∧
      pass.callsOfAll store (visits.map .visit) = visits.map fun visit => .get visit.key := by
  induction visits with
  | nil => exact ⟨rfl, rfl⟩
  | cons first rest ih =>
      obtain ⟨here, later⟩ := List.forall_mem_cons.mp done
      have unrevised := Visit.revised?_of_settledIn here
      obtain ⟨same, calls⟩ := ih later
      simp only [List.map_cons, after, List.foldl_cons, callsOfAll, callsOf_visit, unrevised,
        effect_visit_of_not_revised unrevised]
      exact ⟨same, congrArg (List.cons _) calls⟩

end Pass

/-! ### Runs -/

/-- The run writes the object that the reference finds in the store. -/
def Run.Writes {State α : Type} (run : Run State α) (store : MemoryStore) (reference : Reference) :
    Prop :=
  ∃ object ∈ store.find? reference, ∃ call ∈ run.calls, call.Writes object.key

instance {State α : Type} (run : Run State α) (store : MemoryStore) (reference : Reference) :
    Decidable (run.Writes store reference) := by
  unfold Run.Writes; infer_instance

namespace Enrolment

variable {config : Config} {store : MemoryStore}

theorem result_attempt {visit : Visit} {written : Bool}
    (succeeded : ((visit.attempt config).run MemoryStore.world store).result = .ok written) :
    written = (visit.revised? config (store.find? visit.key)).isSome := by
  change ((visit.react config (store.get visit.key)).run MemoryStore.world store).result = _
    at succeeded
  unfold MemoryStore.get at succeeded
  cases found : store.find? visit.key with
  | none =>
      rw [found] at succeeded
      simp only [Visit.react] at succeeded
      split at succeeded
      · cases succeeded
        rfl
      · cases succeeded
  | some scope =>
      rw [found] at succeeded
      simp only [Visit.react, edit_eq] at succeeded
      cases made : revision config visit.change scope with
      | error error =>
          rw [made] at succeeded
          cases succeeded
      | ok outcome =>
          rw [made] at succeeded
          cases outcome with
          | none =>
              cases succeeded
              simp only [Visit.revised?, Option.map_some, made, Option.isSome_none]
          | some body =>
              simp only [Pass.run_heed, Dialogue.run_bind, Run.andThen] at succeeded
              split at succeeded
              · cases succeeded
              · cases succeeded
                simp only [Visit.revised?, Option.map_some, made, Option.isSome_some]

theorem state_attempt {visit : Visit} {written : Bool}
    (succeeded : ((visit.attempt config).run MemoryStore.world store).result = .ok written) :
    ((visit.attempt config).run MemoryStore.world store).state =
      ({ config := config } : Pass).effect store (.visit visit) := by
  have same : (visit.attempt config).ignore =
      Dialogue.each (Pass.perform { config := config }) [.visit visit] := by
    rw [Dialogue.each, Pass.perform, visit.dialogue_eq, Dialogue.bind_ignore]
    rfl
  exact Pass.state_of_ignore same succeeded

/-- The keys of scopes that have to be written back for the member to join or leave them. -/
def revisedKeys (config : Config) (store : MemoryStore) (joins : Bool) (member : Reference)
    (keys : List Reference) : List Reference :=
  keys.filter fun key =>
    ((⟨joins, member, key⟩ : Visit).revised? config (store.find? key)).isSome

theorem revisedKeys_congr {store other : MemoryStore} {keys : List Reference}
    (same : ∀ key ∈ keys, store.find? key = other.find? key) (joins : Bool) (member : Reference) :
    revisedKeys config store joins member keys = revisedKeys config other joins member keys :=
  List.filter_congr fun key present => by rw [same key present]

theorem result_select {joins : Bool} {member : Reference} {keys kept : List Reference}
    (parted : keys.Pairwise fun one other => ¬ one.Matches other)
    (succeeded : ((Dialogue.select (fun key => (⟨joins, member, key⟩ : Visit).attempt config)
      keys).run MemoryStore.world store).result = .ok kept) :
    kept = revisedKeys config store joins member keys := by
  induction keys generalizing store kept with
  | nil =>
      cases succeeded
      rfl
  | cons first rest ih =>
      obtain ⟨apart, tail⟩ := List.pairwise_cons.mp parted
      rw [Dialogue.select, Dialogue.run_bind, Run.andThen] at succeeded
      cases here : (((⟨joins, member, first⟩ : Visit).attempt config).run MemoryStore.world
        store).result with
      | error error =>
          rw [here] at succeeded
          cases succeeded
      | ok written =>
          simp only [here, Dialogue.run_bind, Run.andThen, state_attempt here] at succeeded
          split at succeeded
          · cases succeeded
          · rename_i later onward
            cases succeeded
            have others := (ih tail onward).trans <| revisedKeys_congr
              (fun key present => Pass.find?_effect_of_not_matches (apart key present) _ store)
              joins member
            rw [revisedKeys, List.filter_cons, ← result_attempt here, others, revisedKeys]

theorem state_select {joins : Bool} {member : Reference} {keys kept : List Reference}
    (succeeded : ((Dialogue.select (fun key => (⟨joins, member, key⟩ : Visit).attempt config)
      keys).run MemoryStore.world store).result = .ok kept) :
    ((Dialogue.select (fun key => (⟨joins, member, key⟩ : Visit).attempt config)
      keys).run MemoryStore.world store).state =
      ({ config := config } : Pass).after store
        ((keys.map fun key => (⟨joins, member, key⟩ : Visit)).map .visit) := by
  refine Pass.state_of_ignore ?_ succeeded
  rw [Dialogue.ignore_select, Dialogue.each_map, Dialogue.each_map]
  simp only [Pass.perform, Visit.dialogue_eq]

theorem ignore_carryOut_eq_perform (config : Config) (member : Reference) (plan : ScopePlan) :
    (carryOut config member plan).ignore =
      Dialogue.each (Pass.perform { config := config }) ((visits member plan).map .visit) := by
  rw [ignore_carryOut, Dialogue.each_map]
  rfl

theorem result_carryOut {member : Reference} {plan : ScopePlan} {changes : Changes}
    (parted : Parted (visits member plan))
    (succeeded : ((carryOut config member plan).run MemoryStore.world store).result =
      .ok changes) :
    changes.added = revisedKeys config store true member plan.toAdd ∧
      changes.removed = revisedKeys config store false member plan.toRemove := by
  obtain ⟨joining, leaving, apart⟩ := List.pairwise_append.mp parted
  unfold carryOut at succeeded
  simp only [funext (add_eq config member), funext (remove_eq config member), Bind.bind,
    Dialogue.run_bind, Run.andThen] at succeeded
  split at succeeded
  · cases succeeded
  · rename_i added first
    split at succeeded
    · cases succeeded
    · rename_i removed second
      cases succeeded
      refine ⟨result_select (List.pairwise_map.mp joining) first, ?_⟩
      rw [state_select first] at second
      refine (result_select (List.pairwise_map.mp leaving) second).trans ?_
      refine revisedKeys_congr ?_ false member
      intro key toRemove
      refine Pass.find?_after_of_not_matches ?_ _ store
      intro joined toAdd
      exact apart joined toAdd ⟨false, member, key⟩ (List.mem_map_of_mem toRemove)

variable {member : Reference} {plan : ScopePlan} {changes : Changes}

theorem writes_iff (parted : Parted (visits member plan))
    (succeeded : ((carryOut config member plan).run MemoryStore.world store).result =
      .ok changes) {visit : Visit} (planned : visit ∈ visits member plan) :
    ((carryOut config member plan).run MemoryStore.world store).Writes store visit.key ↔
      (visit.revised? config (store.find? visit.key)).isSome := by
  obtain ⟨possible, goes⟩ :=
    Pass.run_of_ignore (ignore_carryOut_eq_perform config member plan) store
  obtain ⟨calls, -⟩ := goes (possible.mp ⟨changes, succeeded⟩)
  rw [Run.Writes, calls, Pass.callsOfAll_of_parted parted]
  simp only [List.mem_flatMap, Pass.callsOf_visit]
  constructor
  · intro written
    obtain ⟨object, found, call, ⟨other, present, made⟩, here⟩ := written
    rcases List.mem_cons.mp made with rfl | updated
    · cases here
    · obtain ⟨body, revised, rfl⟩ := List.mem_map.mp updated
      have revised := Option.mem_toList.mp revised
      obtain ⟨scope, its, -, kept⟩ := Visit.found_of_revised? revised
      have matching : other.key.Matches visit.key :=
        MemoryStore.matches_of_find? its found (kept.symm.trans here)
      obtain rfl := parted.eq_of_matches present planned matching
      exact Option.isSome_iff_exists.mpr ⟨body, revised⟩
  · intro revises
    obtain ⟨body, revised⟩ := Option.isSome_iff_exists.mp revises
    obtain ⟨scope, found, -, same⟩ := Visit.found_of_revised? revised
    refine ⟨scope, found, .update .scope body, ⟨visit, planned, ?_⟩, same⟩
    exact List.mem_cons_of_mem _ (List.mem_map_of_mem (Option.mem_toList.mpr revised))

theorem revisedKeys_of_done {joins : Bool} {keys : List Reference}
    (done : ∀ key ∈ keys, ({ config := config } : Pass).Done store ⟨joins, member, key⟩) :
    revisedKeys config store joins member keys = [] := by
  refine List.filter_eq_nil_iff.mpr ?_
  intro key present revises
  rw [Visit.revised?_of_settledIn (done key present)] at revises
  cases revises

theorem mem_visits_of_toAdd {key : Reference} (toAdd : key ∈ plan.toAdd) (member : Reference) :
    ⟨true, member, key⟩ ∈ visits member plan :=
  (mem_visits_iff member plan _).mpr ⟨rfl, .inl ⟨rfl, toAdd⟩⟩

theorem mem_visits_of_toRemove {key : Reference} (toRemove : key ∈ plan.toRemove)
    (member : Reference) : ⟨false, member, key⟩ ∈ visits member plan :=
  (mem_visits_iff member plan _).mpr ⟨rfl, .inr ⟨rfl, toRemove⟩⟩

theorem state_of_success
    (succeeded : ((carryOut config member plan).run MemoryStore.world store).result =
      .ok changes) :
    ((carryOut config member plan).run MemoryStore.world store).state =
      ({ config := config } : Pass).after store ((visits member plan).map .visit) :=
  Pass.state_of_ignore (ignore_carryOut_eq_perform config member plan) succeeded

section Success

variable (parted : Parted (visits member plan))
  (succeeded : ((carryOut config member plan).run MemoryStore.world store).result = .ok changes)
include parted succeeded

theorem possible_of_success {visit : Visit} (planned : visit ∈ visits member plan) :
    visit.Possible config (store.find? visit.key) := by
  obtain ⟨possible, -⟩ := Pass.run_of_ignore (ignore_carryOut_eq_perform config member plan) store
  exact (Pass.smooth_iff_of_parted parted).mp (possible.mp ⟨changes, succeeded⟩) visit planned

theorem find?_of_success {visit : Visit} (planned : visit ∈ visits member plan) :
    ((carryOut config member plan).run MemoryStore.world store).state.find? visit.key =
      (store.find? visit.key).map (visit.amend config) := by
  rw [state_of_success succeeded]
  exact Pass.find?_after_of_parted parted planned { config := config } store

theorem done_of_success {visit : Visit} (planned : visit ∈ visits member plan) :
    ({ config := config } : Pass).Done
      ((carryOut config member plan).run MemoryStore.world store).state visit := by
  rw [state_of_success succeeded]
  exact Pass.done_after_of_parted parted planned (possible_of_success parted succeeded planned)

theorem listed_of_success {key : Reference} (toAdd : key ∈ plan.toAdd) :
    ({ config := config } : Pass).Listed
      ((carryOut config member plan).run MemoryStore.world store).state key member := by
  have planned := mem_visits_of_toAdd toAdd member
  have possible := possible_of_success parted succeeded planned
  have after := find?_of_success parted succeeded planned
  cases found : store.find? key with
  | none => simp [Visit.Possible, Visit.tolerates, found] at possible
  | some scope =>
      rw [found] at after
      exact Pass.listed_of_done (done_of_success parted succeeded planned) rfl after

theorem unlisted_of_success {key : Reference} (toRemove : key ∈ plan.toRemove) :
    ({ config := config } : Pass).Unlisted
      ((carryOut config member plan).run MemoryStore.world store).state key member :=
  Pass.unlisted_of_done
    (done_of_success parted succeeded (mem_visits_of_toRemove toRemove member)) rfl

theorem changes_of_success :
    let run := (carryOut config member plan).run MemoryStore.world store
    changes.added = plan.toAdd.filter (fun key => run.Writes store key) ∧
      changes.removed = plan.toRemove.filter fun key => run.Writes store key := by
  obtain ⟨added, removed⟩ := result_carryOut parted succeeded
  refine ⟨added.trans (List.filter_congr ?_), removed.trans (List.filter_congr ?_)⟩
  · intro key toAdd
    have written := writes_iff parted succeeded (mem_visits_of_toAdd toAdd member)
    exact Bool.eq_iff_iff.mpr (written.symm.trans decide_eq_true_iff.symm)
  · intro key toRemove
    have written := writes_iff parted succeeded (mem_visits_of_toRemove toRemove member)
    exact Bool.eq_iff_iff.mpr (written.symm.trans decide_eq_true_iff.symm)

theorem lookup?_of_success {key : Key}
    (elsewhere : ∀ written ∈ changes.added ++ changes.removed, ∀ scope,
      store.find? written = some scope → scope.key ≠ key) :
    ((carryOut config member plan).run MemoryStore.world store).state.lookup? key =
      store.lookup? key := by
  rw [state_of_success succeeded]
  refine Pass.lookup?_after_of_parted parted ?_
  intro visit planned body revised
  obtain ⟨scope, found, -, same⟩ := Visit.found_of_revised? revised
  rw [same]
  refine elsewhere visit.key ?_ scope found
  obtain ⟨added, removed⟩ := result_carryOut parted succeeded
  obtain ⟨joins, own, its⟩ := visit
  rw [List.mem_append, added, removed]
  rcases (mem_visits_iff member plan _).mp planned with ⟨rfl, ⟨rfl, toAdd⟩ | ⟨rfl, toRemove⟩⟩
  · exact .inl (List.mem_filter.mpr ⟨toAdd, Option.isSome_iff_exists.mpr ⟨body, revised⟩⟩)
  · exact .inr (List.mem_filter.mpr ⟨toRemove, Option.isSome_iff_exists.mpr ⟨body, revised⟩⟩)

/-- The plan can be carried out again, and is then found settled. -/
theorem again_of_success :
    let final := ((carryOut config member plan).run MemoryStore.world store).state
    let again := (carryOut config member plan).run MemoryStore.world final
    again.result = .ok {} ∧ again.calls = (plan.toAdd ++ plan.toRemove).map .get ∧
      again.state = final := by
  intro final again
  have done (visit : Visit) (planned : visit ∈ visits member plan) :=
    done_of_success parted succeeded planned
  obtain ⟨possible, goes⟩ :=
    Pass.run_of_ignore (ignore_carryOut_eq_perform config member plan) final
  have smooth : ({ config := config } : Pass).Smooth final ((visits member plan).map .visit) := by
    refine (Pass.smooth_iff_of_parted parted).mpr ?_
    intro visit planned
    rw [find?_of_success parted succeeded planned]
    exact (Visit.possible_map visit visit _).mpr (possible_of_success parted succeeded planned)
  obtain ⟨calls, left⟩ := goes smooth
  obtain ⟨same, fetches⟩ := Pass.after_of_done done
  refine ⟨?_, ?_, left.trans same⟩
  · obtain ⟨changes, result⟩ := possible.mpr smooth
    obtain ⟨added, removed⟩ := result_carryOut parted result
    rw [revisedKeys_of_done fun key toAdd => done _ (mem_visits_of_toAdd toAdd member)] at added
    rw [revisedKeys_of_done fun key toRemove =>
      done _ (mem_visits_of_toRemove toRemove member)] at removed
    obtain ⟨_, _⟩ := changes
    subst added removed
    exact result
  · rw [calls, fetches, visits, List.map_append, List.map_append, List.map_map, List.map_map]
    rfl

end Success

/-- A reconciliation that succeeds leaves every scope of the plan as the plan wants it and all else
as it was, and tells just the scopes that it wrote. After it there is nothing to reconcile. -/
theorem reconciles (config : Config) (workload : Reference) (desired : List Resource)
    (recorded : List Reference) (store : MemoryStore) (changes : Changes)
    (succeeded : ((reconcile config workload desired recorded).run MemoryStore.world store).result =
      .ok changes) :
    let plan := ScopePlan.of workload desired recorded
    let run := (reconcile config workload desired recorded).run MemoryStore.world store
    let again := (reconcile config workload desired recorded).run MemoryStore.world run.state
    (∀ key ∈ plan.toAdd,
      ∃ scope, run.state.get key = .ok scope ∧ Lists config scope workload) ∧
    (∀ key ∈ plan.toRemove,
      (∃ refusal, run.state.get key = .error refusal ∧ refusal.isNotFound = true) ∨
        ∃ scope, run.state.get key = .ok scope ∧ ¬ Lists config scope workload) ∧
    changes.added = plan.toAdd.filter (fun key => run.Writes store key) ∧
    changes.removed = plan.toRemove.filter (fun key => run.Writes store key) ∧
    (∀ key : Key,
      (∀ written ∈ changes.added ++ changes.removed, ∀ scope,
        store.find? written = some scope → scope.key ≠ key) →
          run.state.lookup? key = store.lookup? key) ∧
    again.result = .ok {} ∧ again.calls = (plan.toAdd ++ plan.toRemove).map .get ∧
      again.state = run.state := by
  intro plan run again
  have parted := parted_visits workload workload desired recorded
  obtain ⟨added, removed⟩ := changes_of_success parted succeeded
  refine ⟨fun key => listed_of_success parted succeeded,
    fun key => unlisted_of_success parted succeeded, added, removed,
    fun key => lookup?_of_success parted succeeded, again_of_success parted succeeded⟩

def tenant : Reference := { apiVersion := "v1", kind := "Web", name := "w" }

def tenantStore : MemoryStore :=
  .holding [.scopeWith "a" "s" { tenant with name := "other" }, .scopeWith "b" "t" tenant,
    .scopeWith "c" "u" tenant]

theorem reconciles_tenant :
    let key (name : String) : Reference := { apiVersion := "v1", kind := "Scope", name := name }
    let reconciled := reconcile {} tenant [.new "v1" "Scope" "s", .new "v1" "Scope" "u"] [key "t"]
    let run := reconciled.run MemoryStore.world tenantStore
    run.result = .ok { added := [key "s"], removed := [key "t"] } ∧
      (∃ scope, run.state.get (key "s") = .ok scope ∧ Lists {} scope tenant) ∧
      run.state.lookup? ⟨"v1", "Scope", "c", "u"⟩ = some (.scopeWith "c" "u" tenant) ∧
      (reconciled.run MemoryStore.world run.state).result = .ok {} := by
  intro key reconciled run
  have succeeded : run.result = .ok { added := [key "s"], removed := [key "t"] } := by decide
  obtain ⟨listed, -, -, -, kept, again, -⟩ := reconciles {} tenant
    [.new "v1" "Scope" "s", .new "v1" "Scope" "u"] [key "t"] tenantStore _ succeeded
  exact ⟨succeeded, listed (key "s") (by decide), kept _ (by decide), again⟩

end Enrolment

end Rollout
