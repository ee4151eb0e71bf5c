import Rollout.Proofs.Reconciliation
import Rollout.Proofs.ScopeWrites

/-! How far a reconciliation comes. Its visits are made in order up to one that is stopped, be it
by its scope or by a context that is done. What a visit writes back is the object that it read, so
that the store never refuses it, and a visit that is stopped has written nothing. -/

set_option autoImplicit false

namespace Rollout

open Enrolment (Visit Parted revision)

/-- The world answers each call as its store does; when its context is done is its own affair. -/
def World.Serves {State : Type} (world : World State) (stored : State → MemoryStore) : Prop :=
  ∀ call state, (world.answer call state).1 = ((stored state).answer call).1 ∧
    stored (world.answer call state).2 = ((stored state).answer call).2

theorem MemoryStore.serves_world : MemoryStore.world.Serves id := fun _ _ => ⟨rfl, rfl⟩

namespace Enrolment.Visit

variable {config : Config}

def reply (visit : Visit) : Option Resource → (Call.get visit.key).Reply
  | some scope => .ok scope
  | none => .error (.missing visit.key)

def talk (config : Config) (visit : Visit) (held : Option Resource) : List Exchange :=
  ⟨.get visit.key, visit.reply held⟩ ::
    (visit.revised? config held).toList.map fun body => ⟨.update .scope body, .ok ()⟩

/-- What stops a visit, given what the store finds for it: a scope that has to be there and is not,
one whose member list cannot be read or written, or the context before either call. -/
inductive Stops (config : Config) (visit : Visit) : Option Resource → ApplyError → Prop where
  | gone (minded : visit.tolerates config (.missing visit.key) = false) :
      Stops config visit none (.getScope visit.key visit.member (.missing visit.key))
  | unrevised {scope : Resource} {error : PathError}
      (failed : revision config visit.change scope = .error error) :
      Stops config visit (some scope) (.updateScope visit.key visit.member (.attribute error))
  | beforeFetch (held : Option Resource) (reason : StopReason) :
      Stops config visit held (.cancelled "get_scope" reason)
  | beforeUpdate {scope body : Resource} (reason : StopReason)
      (made : revision config visit.change scope = .ok (some body)) :
      Stops config visit (some scope) (.cancelled "update_scope" reason)

theorem Stops.not_refused {visit : Visit} {held : Option Resource} {error : ApplyError}
    (stops : visit.Stops config held error) (scope member : Reference) (refusal : StoreError) :
    error ≠ .updateScope scope member (.store refusal) := by
  rintro rfl
  cases stops

inductive Ends (config : Config) (visit : Visit) (store : MemoryStore) :
    List Exchange → Except ApplyError Unit → MemoryStore → Prop where
  | made (possible : visit.Possible config (store.find? visit.key)) :
      Ends config visit store (visit.talk config (store.find? visit.key)) (.ok ())
        (({ config := config } : Pass).effect store (.visit visit))
  | stopped {said : List Exchange} {error : ApplyError}
      (why : visit.Stops config (store.find? visit.key) error)
      (begun : said <+: [⟨.get visit.key, visit.reply (store.find? visit.key)⟩]) :
      Ends config visit store said (.error error) store

theorem Ends.make {visit : Visit} {store : MemoryStore} {held : Option Resource}
    (found : store.find? visit.key = held) (possible : visit.Possible config held) :
    visit.Ends config store (visit.talk config held) (.ok ())
      (({ config := config } : Pass).effect store (.visit visit)) := by
  subst found
  exact .made possible

theorem Ends.stop {visit : Visit} {store : MemoryStore} {held : Option Resource}
    {error : ApplyError} (found : store.find? visit.key = held)
    (why : visit.Stops config held error) :
    visit.Ends config store [⟨.get visit.key, visit.reply held⟩] (.error error) store := by
  subst found
  exact .stopped why List.prefix_rfl

theorem get_eq_reply (visit : Visit) (store : MemoryStore) :
    store.get visit.key = visit.reply (store.find? visit.key) := by
  unfold MemoryStore.get
  cases store.find? visit.key <;> rfl

theorem found_of_mem_talk {visit : Visit} {held : Option Resource} {key : Reference}
    {scope : Resource} (heard : ⟨.get key, .ok scope⟩ ∈ visit.talk config held) :
    held = some scope := by
  rcases List.mem_cons.mp heard with fetched | updated
  · cases held with
    | none => cases fetched
    | some found =>
        cases fetched
        rfl
  · obtain ⟨body, -, impossible⟩ := List.mem_map.mp updated
    cases impossible

theorem accepted_of_mem_talk {visit : Visit} {held : Option Resource} {role : Role}
    {body : Resource} {reply : (Call.update role body).Reply}
    (heard : ⟨.update role body, reply⟩ ∈ visit.talk config held) : reply = .ok () := by
  rcases List.mem_cons.mp heard with impossible | updated
  · cases impossible
  · obtain ⟨_, -, same⟩ := List.mem_map.mp updated
    cases same
    rfl

variable {State : Type} {world : World State} {stored : State → MemoryStore}

/-- The rest of a visit whose scope was fetched: what is written has the key of that scope, so that
the store has something to replace. -/
theorem run_edit (serves : world.Serves stored) {visit : Visit} {state : State} {scope : Resource}
    (found : (stored state).find? visit.key = some scope) :
    let run := (edit config visit.key visit.member scope visit.change
      visit.unchanged).run world state
    (visit.Feasible config scope ∧ (∃ written, run.result = .ok written) ∧
      ⟨.get visit.key, .ok scope⟩ :: run.exchanges = visit.talk config (some scope) ∧
      stored run.state = ({ config := config } : Pass).effect (stored state) (.visit visit)) ∨
    ∃ error, visit.Stops config (some scope) error ∧ run.result = .error error ∧
      run.exchanges = [] ∧ stored run.state = stored state := by
  rw [edit_eq, feasible_iff]
  cases made : revision config visit.change scope with
  | error error => exact .inr ⟨_, .unrevised made, rfl, rfl, rfl⟩
  | ok outcome =>
      cases outcome with
      | none =>
          have unrevised : visit.revised? config (some scope) = none := by
            simp only [revised?, Option.map_some, made]
          refine .inl ⟨⟨none, rfl⟩, ⟨false, rfl⟩, ?_, ?_⟩
          · rw [talk, unrevised]
            rfl
          · rw [Pass.effect_visit_of_not_revised (found ▸ unrevised)]
            rfl
      | some body =>
          have revised : visit.revised? config (some scope) = some body :=
            revised?_eq_some_iff.mpr ⟨scope, rfl, made⟩
          have same : body.key = scope.key :=
            Resource.key_eq_of_reference (reference_of_revision made)
          have there : (stored state).lookup? body.key = some scope :=
            same ▸ MemoryStore.lookup?_of_find? found
          have accepted : (stored state).answer (.update .scope body) =
              (.ok (), (stored state).insert body) := by
            simp only [MemoryStore.answer, MemoryStore.update_of_lookup? there]
          obtain ⟨replied, left⟩ := serves (.update .scope body) state
          rw [accepted] at replied left
          simp only [Dialogue.call, Dialogue.bind, Dialogue.run]
          cases world.stopped? state with
          | some reason => exact .inr ⟨_, .beforeUpdate reason made, rfl, rfl, rfl⟩
          | none =>
              rw [replied]
              refine .inl ⟨⟨some body, rfl⟩, ⟨true, rfl⟩, ?_, ?_⟩
              · rw [talk, revised]
                rfl
              · rw [Pass.effect_visit_of_revised (found ▸ revised)]
                exact left

theorem ends_react (config : Config) (serves : world.Serves stored) (visit : Visit)
    (state : State) :
    let held := (stored state).find? visit.key
    let rest := (visit.react config (visit.reply held)).run world state
    visit.Ends config (stored state) (⟨.get visit.key, visit.reply held⟩ :: rest.exchanges)
      (rest.result.map fun _ => ()) (stored rest.state) := by
  intro held rest
  cases found : held with
  | none =>
      have unheld : (stored state).find? visit.key = none := found
      cases tolerated : visit.tolerates config (.missing visit.key) with
      | true =>
          have gone : rest =
              ⟨.ok false, [.noted (.scopeGone visit.key visit.member)], state⟩ := by
            simp only [rest, found, reply, react, tolerated, if_true]
            rfl
          have made := Ends.make unheld tolerated
          rw [Pass.effect_visit_of_not_revised (by rw [unheld]; rfl)] at made
          rw [gone]
          exact made
      | false =>
          have failed : rest =
              ⟨.error (.getScope visit.key visit.member (.missing visit.key)), [], state⟩ := by
            simp only [rest, found, reply, react, tolerated]
            rfl
          rw [failed]
          exact Ends.stop unheld (.gone tolerated)
  | some scope =>
      have there : (stored state).find? visit.key = some scope := found
      have edits : rest = (edit config visit.key visit.member scope visit.change
          visit.unchanged).run world state := by
        simp only [rest, found, reply, react]
      rw [edits]
      rcases run_edit serves there with ⟨feasible, ⟨written, result⟩, said, left⟩ |
        ⟨error, why, result, said, left⟩
      · rw [result, left, reply, said]
        exact Ends.make there feasible
      · rw [result, left, reply, said]
        exact Ends.stop there why

theorem ends_run (config : Config) (serves : world.Serves stored) (visit : Visit)
    (state : State) :
    let run := (visit.dialogue config).run world state
    visit.Ends config (stored state) run.exchanges run.result (stored run.state) := by
  rw [dialogue_eq, Dialogue.run_ignore, attempt, Dialogue.run]
  cases world.stopped? state with
  | some reason => exact .stopped (.beforeFetch _ reason) List.nil_prefix
  | none =>
      obtain ⟨replied, left⟩ := serves (.get visit.key) state
      have fetched : (world.answer (.get visit.key) state).1 =
          visit.reply ((stored state).find? visit.key) :=
        replied.trans (visit.get_eq_reply (stored state))
      have kept : stored (world.answer (.get visit.key) state).2 = stored state := left
      have ends := ends_react config serves visit (world.answer (.get visit.key) state).2
      rw [kept] at ends
      simp only [Dialogue.run, fetched]
      exact ends

end Enrolment.Visit

theorem Store.keys_place {object : Resource} {objects : List Resource} (ordered : Ordered objects)
    (there : object.key ∈ objects.map Resource.key) :
    (place object objects).map Resource.key = objects.map Resource.key := by
  induction objects with
  | nil => cases there
  | cons first rest ih =>
      obtain ⟨later, tail⟩ := List.pairwise_cons.mp ordered
      rw [place]
      split
      next before =>
        exfalso
        rcases List.mem_cons.mp there with same | deeper
        · rw [same] at before
          exact Key.lt_irrefl _ before
        · obtain ⟨other, present, its⟩ := List.mem_map.mp deeper
          exact Key.lt_irrefl _ (Key.lt_trans before (its ▸ later other present))
      next notBefore =>
        split
        next same => rw [List.map_cons, List.map_cons, same]
        next differ =>
          have deeper := (List.mem_cons.mp there).resolve_left differ
          rw [List.map_cons, List.map_cons, ih tail deeper]

namespace Pass

variable {pass : Pass} {visits : List Visit}

theorem keys_after_visits (pass : Pass) (store : MemoryStore) (visits : List Visit) :
    (pass.after store (visits.map .visit)).objects.map Resource.key =
      store.objects.map Resource.key := by
  induction visits generalizing store with
  | nil => rfl
  | cons first rest ih =>
      refine (ih (pass.effect store (.visit first))).trans ?_
      cases revised : first.revised? pass.config (store.find? first.key) with
      | none => rw [effect_visit_of_not_revised revised]
      | some body =>
          obtain ⟨scope, found, -, same⟩ := Visit.found_of_revised? revised
          rw [effect_visit_of_revised revised]
          refine Store.keys_place store.ordered ?_
          rw [same]
          exact List.mem_map_of_mem (List.mem_of_find?_eq_some found)

theorem lookup?_after_cases {store : MemoryStore} {object : Resource} (parted : Parted visits)
    (member : object ∈ store.objects) :
    (pass.after store (visits.map .visit)).lookup? object.key = some object ∨
      ∃ visit ∈ visits, store.find? visit.key = some object ∧
        ∃ body, revision pass.config visit.change object = .ok (some body) ∧
          (pass.after store (visits.map .visit)).lookup? object.key = some body := by
  have there := MemoryStore.mem_iff_lookup?.mp member
  by_cases touched : ∃ visit ∈ visits, ∃ body,
      visit.revised? pass.config (store.find? visit.key) = some body ∧ body.key = object.key
  · obtain ⟨visit, planned, body, revised, same⟩ := touched
    obtain ⟨scope, found, made, its⟩ := Visit.found_of_revised? revised
    obtain rfl : scope = object := by
      have kept := MemoryStore.lookup?_of_find? found
      rw [its.symm.trans same, there] at kept
      exact (Option.some.inj kept).symm
    exact .inr ⟨visit, planned, found, body, made,
      same ▸ lookup?_after_of_revised parted planned revised⟩
  · left
    refine (lookup?_after_of_parted parted ?_).trans there
    intro visit planned body revised same
    exact touched ⟨visit, planned, body, revised, same⟩

end Pass

/-! ### Runs -/

namespace Enrolment

variable {config : Config} {State : Type} {world : World State} {stored : State → MemoryStore}

inductive Comes (config : Config) (store : MemoryStore) :
    List Visit → List Exchange → Except ApplyError Unit → MemoryStore → Prop where
  | through {visits : List Visit}
      (possible : ∀ visit ∈ visits, visit.Possible config (store.find? visit.key)) :
      Comes config store visits
        (visits.flatMap fun visit => visit.talk config (store.find? visit.key)) (.ok ())
        (({ config := config } : Pass).after store (visits.map .visit))
  | upTo {done later : List Visit} {visit : Visit} {said : List Exchange} {error : ApplyError}
      (possible : ∀ made ∈ done, made.Possible config (store.find? made.key))
      (why : visit.Stops config (store.find? visit.key) error)
      (begun : said <+: [⟨.get visit.key, visit.reply (store.find? visit.key)⟩]) :
      Comes config store (done ++ visit :: later)
        ((done.flatMap fun made => made.talk config (store.find? made.key)) ++ said) (.error error)
        (({ config := config } : Pass).after store (done.map .visit))

theorem Comes.next {store last : MemoryStore} {first : Visit} {rest : List Visit}
    {said : List Exchange} {result : Except ApplyError Unit}
    (apart : ∀ other ∈ rest, ¬ first.key.Matches other.key)
    (possible : first.Possible config (store.find? first.key))
    (comes : Comes config (({ config := config } : Pass).effect store (.visit first)) rest said
      result last) :
    Comes config store (first :: rest) (first.talk config (store.find? first.key) ++ said) result
      last := by
  have same (other : Visit) (planned : other ∈ rest) :
      (({ config := config } : Pass).effect store (.visit first)).find? other.key =
        store.find? other.key :=
    Pass.find?_effect_of_not_matches (apart other planned) _ store
  cases comes with
  | through others =>
      rw [List.flatMap_congr fun other planned => by rw [same other planned]]
      refine .through (List.forall_mem_cons.mpr ⟨possible, ?_⟩)
      intro other planned
      exact same other planned ▸ others other planned
  | @upTo done later visit said error others why begun =>
      have inDone (made : Visit) (present : made ∈ done) :=
        same made (List.mem_append_left _ present)
      rw [same visit (List.mem_append_right _ List.mem_cons_self)] at why begun
      rw [List.flatMap_congr fun made present => by rw [inDone made present], ← List.append_assoc]
      have all : ∀ made ∈ first :: done, made.Possible config (store.find? made.key) := by
        refine List.forall_mem_cons.mpr ⟨possible, ?_⟩
        intro made present
        exact inDone made present ▸ others made present
      exact .upTo all why begun

theorem comes_each (config : Config) (serves : world.Serves stored) {visits : List Visit}
    (parted : Parted visits) (state : State) :
    let run := (Dialogue.each (Visit.dialogue config) visits).run world state
    Comes config (stored state) visits run.exchanges run.result (stored run.state) := by
  induction visits generalizing state with
  | nil => exact .through (fun visit impossible => by cases impossible)
  | cons first rest ih =>
      obtain ⟨apart, tail⟩ := List.pairwise_cons.mp parted
      have ends := Visit.ends_run config serves first state
      simp only [Dialogue.each, Dialogue.run_bind] at ends ⊢
      generalize (first.dialogue config).run world state = run at ends ⊢
      generalize told : run.exchanges = talk, outcome : run.result = result,
        kept : stored run.state = last at ends
      rw [Run.andThen, outcome]
      cases ends with
      | stopped why begun =>
          change Comes config (stored state) ([] ++ first :: rest) run.exchanges _
            (stored run.state)
          rw [told, kept]
          exact .upTo (fun made impossible => absurd impossible List.not_mem_nil) why begun
      | made possible =>
          have onward := ih tail run.state
          rw [kept] at onward
          have all := onward.next apart possible
          rw [← told] at all
          simp only [Run.exchanges, List.filterMap_append]
          exact all

theorem comes_carryOut (config : Config) (serves : world.Serves stored) {member : Reference}
    {plan : ScopePlan} (parted : Parted (visits member plan)) (state : State) :
    let run := (carryOut config member plan).run world state
    Comes config (stored state) (visits member plan) run.exchanges (run.result.map fun _ => ())
      (stored run.state) := by
  have comes := comes_each config serves parted state
  rw [← ignore_carryOut, Dialogue.run_ignore] at comes
  exact comes

theorem follows_carryOut (world : World State) (config : Config) (member : Reference)
    (plan : ScopePlan) (state : State) :
    Follows config (visits member plan)
      ((carryOut config member plan).run world state).exchanges := by
  have play := Dialogue.play_run world (carryOut config member plan).ignore state
  rw [Dialogue.run_ignore, ignore_carryOut_eq_perform] at play
  have follows := Pass.follows_tasks _ _ play
  rw [List.filterMap_map] at follows
  have all : (visits member plan).filterMap (Task.visit? ∘ .visit) = visits member plan :=
    List.filterMap_some
  rwa [all] at follows

section Comes

variable {store last : MemoryStore} {visits : List Visit} {said : List Exchange}
  {result : Except ApplyError Unit} (comes : Comes config store visits said result last)
include comes

theorem Comes.said_prefix :
    said <+: visits.flatMap fun visit => visit.talk config (store.find? visit.key) := by
  cases comes with
  | through possible => exact List.prefix_rfl
  | @upTo done later visit said error possible why begun =>
      rw [List.flatMap_append, List.flatMap_cons]
      have fetch := begun.trans (List.prefix_append _ ((visit.revised? config
        (store.find? visit.key)).toList.map fun body => ⟨.update .scope body, .ok ()⟩))
      exact (List.prefix_append_right_inj _).mpr (fetch.trans (List.prefix_append _ _))

theorem Comes.mem_talk {exchange : Exchange} (heard : exchange ∈ said) :
    ∃ visit ∈ visits, exchange ∈ visit.talk config (store.find? visit.key) :=
  List.mem_flatMap.mp (comes.said_prefix.subset heard)

theorem Comes.not_refused (scope member : Reference) (refusal : StoreError) :
    result ≠ .error (.updateScope scope member (.store refusal)) := by
  rintro rfl
  cases comes with
  | upTo possible why begun => exact why.not_refused scope member refusal rfl

theorem Comes.keys : last.objects.map Resource.key = store.objects.map Resource.key := by
  cases comes with
  | through possible => exact Pass.keys_after_visits _ store visits
  | @upTo done later visit said error possible why begun =>
      exact Pass.keys_after_visits _ store done

end Comes

/-- Where visits end in an error, those made before it are settled and nothing else is touched. -/
theorem Comes.breaks_off {store last : MemoryStore} {visits : List Visit} {said : List Exchange}
    {error : ApplyError} (comes : Comes config store visits said (.error error) last)
    (parted : Parted visits) :
    ∃ done visit later, visits = done ++ visit :: later ∧
      visit.Stops config (store.find? visit.key) error ∧
      (∀ object ∈ store.objects, last.lookup? object.key = some object ∨
        ∃ made ∈ done, store.find? made.key = some object ∧
          ∃ body, revision config made.change object = .ok (some body) ∧
            last.lookup? object.key = some body) ∧
      (∀ made ∈ done, made.SettledIn config (last.find? made.key)) ∧
      ∀ other ∈ visit :: later, last.find? other.key = store.find? other.key := by
  cases comes with
  | @upTo done later visit said error possible why begun =>
      obtain ⟨partedDone, -, apart⟩ := List.pairwise_append.mp parted
      refine ⟨done, visit, later, rfl, why, ?_, ?_, ?_⟩
      · intro object member
        exact Pass.lookup?_after_cases partedDone member
      · intro made present
        exact Pass.done_after_of_parted partedDone present (possible made present)
      · intro other untouched
        refine Pass.find?_after_of_not_matches ?_ _ store
        intro made present
        exact apart made present other untouched

/-- A reconciliation writes each scope over the one that it has read, which the store accepts. An
error leaves it between two scopes: those before are written in full or need no write, and the one
that the error is about and those after it are as they were. -/
theorem breaks_off_between_scopes {State : Type} (world : World State)
    (stored : State → MemoryStore) (serves : world.Serves stored) (config : Config)
    (workload : Reference) (desired : List Resource) (recorded : List Reference) (state : State) :
    let run := (reconcile config workload desired recorded).run world state
    let planned := visits workload (ScopePlan.of workload desired recorded)
    let store := stored state
    let last := stored run.state
    (∀ scope found items, members config scope = .ok found →
      (scope.set config.workloadRefsPath (.array items)).failure = none →
        (scope.set config.workloadRefsPath (.array items)).resource.reference = scope.reference) ∧
    (∀ before role body reply after,
      run.exchanges = before ++ ⟨.update role body, reply⟩ :: after →
        ∃ earlier key scope, before = earlier ++ [⟨.get key, .ok scope⟩] ∧
          scope ∈ store.objects ∧ body.reference = scope.reference ∧ reply = .ok ()) ∧
    (∀ scope member refusal, run.result ≠ .error (.updateScope scope member (.store refusal))) ∧
    last.objects.map Resource.key = store.objects.map Resource.key ∧
    ∀ error, run.result = .error error → ∃ done visit later, planned = done ++ visit :: later ∧
      visit.Stops config (store.find? visit.key) error ∧
      (∀ object ∈ store.objects, last.lookup? object.key = some object ∨
        ∃ made ∈ done, store.find? made.key = some object ∧
          ∃ body, revision config made.change object = .ok (some body) ∧
            last.lookup? object.key = some body) ∧
      (∀ made ∈ done, made.SettledIn config (last.find? made.key)) ∧
      ∀ other ∈ visit :: later, last.find? other.key = store.find? other.key := by
  intro run planned store last
  have parted := parted_visits workload workload desired recorded
  have comes : Comes config store planned run.exchanges (run.result.map fun _ => ()) last :=
    comes_carryOut config serves parted state
  refine ⟨?_, ?_, ?_, comes.keys, ?_⟩
  · intro scope found items legible succeeded
    exact Resource.reference_set (listable_of_members legible) succeeded
  · intro before role body reply after split
    obtain ⟨earlier, visit, scope, rfl, -, -, revised⟩ :=
      (follows_carryOut world config workload _ state).update split
    have told : run.exchanges = earlier ++ [⟨.get visit.key, .ok scope⟩] ++
        ⟨.update role body, reply⟩ :: after := split
    have fetched : (⟨.get visit.key, .ok scope⟩ : Exchange) ∈ run.exchanges := by simp [told]
    have updated : (⟨.update role body, reply⟩ : Exchange) ∈ run.exchanges := by simp [told]
    obtain ⟨reader, -, read⟩ := comes.mem_talk fetched
    obtain ⟨writer, -, written⟩ := comes.mem_talk updated
    exact ⟨earlier, visit.key, scope, rfl, List.mem_of_find?_eq_some (Visit.found_of_mem_talk read),
      reference_of_revision revised, Visit.accepted_of_mem_talk written⟩
  · intro scope member refusal failed
    refine comes.not_refused scope member refusal ?_
    rw [failed]
    rfl
  · intro error failed
    rw [failed] at comes
    exact comes.breaks_off parted

def misplaced : Config := { workloadRefsPath := "metadata.namespace" }

def mixedScopes : List Resource :=
  [.new "v1" "Scope" "a", (Resource.new "v1" "Scope" "b").withNamespace "n", .new "v1" "Scope" "c"]

theorem breaks_off_at_misplaced_list :
    let store := MemoryStore.holding mixedScopes
    let run := (reconcile misplaced tenant mixedScopes []).run MemoryStore.world store
    let error : ApplyError := .updateScope
      ((Resource.new "v1" "Scope" "b").withNamespace "n").reference tenant
      (.attribute (.unexpectedType "metadata.namespace" "an array" "a string"))
    run.result = .error error ∧
      run.state.lookup? ⟨"v1", "Scope", "", "a"⟩ = some
        ((Resource.new "v1" "Scope" "a").set "metadata.namespace"
          (.array [tenant.entry])).resource ∧
      run.state.objects.map Resource.key = store.objects.map Resource.key ∧
      ∃ done visit later,
        visits tenant (ScopePlan.of tenant mixedScopes []) = done ++ visit :: later ∧
        visit.Stops misplaced (store.find? visit.key) error ∧
        ∀ other ∈ visit :: later, run.state.find? other.key = store.find? other.key := by
  intro store run error
  have failed : run.result = .error error := by decide +kernel
  obtain ⟨-, -, -, keys, stops⟩ := breaks_off_between_scopes MemoryStore.world id
    MemoryStore.serves_world misplaced tenant mixedScopes [] store
  obtain ⟨done, visit, later, split, why, -, -, untouched⟩ := stops error failed
  exact ⟨failed, by decide +kernel, keys, done, visit, later, split, why, untouched⟩

end Enrolment

end Rollout
