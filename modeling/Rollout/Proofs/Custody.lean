import Rollout.Proofs.Convergence
import Rollout.Proofs.Failure
import Rollout.Proofs.Guards
import Rollout.Proofs.Progress

/-! Objects in the custody of others. An upsert that asks for another controller than an object has
is refused, whatever it brings. A pass whose upserts ask so leaves the object as it is, and is over
when it comes to it. -/

set_option autoImplicit false

namespace Rollout

def Tree.IsController (reference : Tree) : Prop :=
  Fields.find? "controller" reference.fields = some (.bool true)

instance (reference : Tree) : Decidable reference.IsController := by
  unfold Tree.IsController; infer_instance

/-- The first of the owner references that is marked as controller gives this uid. -/
def Resource.ControlledBy (object : Resource) (owner : String) : Prop :=
  ∃ earlier controller later,
    object.get "metadata.ownerReferences" = .ok (.array (earlier ++ controller :: later)) ∧
    (∀ reference ∈ earlier, ¬ reference.IsController) ∧ controller.IsController ∧
    Fields.find? "uid" controller.fields = some (.string owner)

theorem Tree.items?_eq_some_iff {tree : Tree} {items : List Tree} :
    tree.items? = some items ↔ tree = .array items := by
  cases tree <;> simp [items?]

theorem Tree.text?_eq_some_iff {tree : Tree} {text : String} :
    tree.text? = some text ↔ tree = .string text := by
  cases tree <;> simp [text?]

theorem Resource.controllerUid?_eq_some_iff {object : Resource} {owner : String} :
    object.controllerUid? = some owner ↔ object.ControlledBy owner := by
  simp only [controllerUid?, Option.bind_eq_bind, Option.bind_eq_some_iff,
    Tree.items?_eq_some_iff, Tree.text?_eq_some_iff]
  constructor
  · intro chain
    obtain ⟨owners, listed, items, rfl, controller, found, uid, there, rfl⟩ := chain
    have listed : object.get "metadata.ownerReferences" = .ok (.array items) := by
      cases read : object.get "metadata.ownerReferences" with
      | error error => simp [read, Except.toOption] at listed
      | ok tree =>
          rw [read] at listed
          exact congrArg Except.ok (Option.some.inj listed)
    obtain ⟨first, earlier, later, rfl, others⟩ := List.find?_eq_some_iff_append.mp found
    refine ⟨earlier, controller, later, listed, ?_, of_decide_eq_true first, there⟩
    intro reference member
    simpa [Tree.IsController] using others reference member
  · intro controlled
    obtain ⟨earlier, controller, later, listed, others, first, there⟩ := controlled
    refine ⟨_, by rw [listed]; rfl, _, rfl, controller, ?_, _, there, rfl⟩
    refine List.find?_eq_some_iff_append.mpr ⟨decide_eq_true first, earlier, later, rfl, ?_⟩
    intro reference member
    simpa [Tree.IsController] using others reference member

def StoreError.controlled (body : Resource) (owner wanted : String) : StoreError :=
  .conflict body.kind body.name ("controlled by " ++ owner ++ ", not " ++ wanted)

def Withholds (options : List ApplyOption) (owner : String) : Prop :=
  ∃ uid, .mustBeControllableBy uid ∈ options ∧ owner ≠ uid

namespace MemoryStore

variable {store last : MemoryStore} {object body : Resource} {owner : String}
  {options : List ApplyOption}

theorem upsert_of_controlledBy (held : store.lookup? body.key = some object)
    (controlled : object.ControlledBy owner) (withheld : Withholds options owner) :
    ∃ wanted, .mustBeControllableBy wanted ∈ options ∧ owner ≠ wanted ∧
      store.upsert body options = .error (.controlled body owner wanted) := by
  have owned : (store.lookup? body.key).bind Resource.controllerUid? = some owner := by
    rw [held]
    exact Resource.controllerUid?_eq_some_iff.mpr controlled
  have minded : (options.find? (·.refuses owner)).isSome := by
    obtain ⟨uid, asked, foreign⟩ := withheld
    rw [List.find?_isSome]
    exact ⟨_, asked, decide_eq_true foreign⟩
  obtain ⟨⟨wanted⟩, first⟩ := Option.isSome_iff_exists.mp minded
  have other : owner ≠ wanted := by
    simpa [ApplyOption.refuses] using List.find?_some first
  refine ⟨wanted, List.mem_of_find?_eq_some first, other, ?_⟩
  simp only [upsert, owned, first, StoreError.controlled]

theorem answer_upsert_of_controlledBy (held : store.lookup? body.key = some object)
    (controlled : object.ControlledBy owner) (withheld : Withholds options owner) (role : Role) :
    ∃ wanted, .mustBeControllableBy wanted ∈ options ∧ owner ≠ wanted ∧
      store.answer (.upsert role body options) =
        (.error (.controlled body owner wanted), store) := by
  obtain ⟨wanted, asked, foreign, refused⟩ := upsert_of_controlledBy held controlled withheld
  exact ⟨wanted, asked, foreign, by simp only [answer, refused]⟩

end MemoryStore

def Call.Carries (options : List ApplyOption) : Call → Prop
  | .upsert _ _ asked => asked = options
  | _ => True

def Exchange.Spares (key : Key) (exchange : Exchange) : Prop :=
  ∀ role body, exchange = ⟨.update role body, .ok ()⟩ → body.key ≠ key

namespace MemoryStore

inductive Tells : MemoryStore → List Exchange → MemoryStore → Prop where
  | nothing (store : MemoryStore) : Tells store [] store
  | call {store last : MemoryStore} {call : Call} {reply : call.Reply} {talk : List Exchange}
      (answered : reply = (store.answer call).1) (later : Tells (store.answer call).2 talk last) :
      Tells store (⟨call, reply⟩ :: talk) last

variable {store last : MemoryStore} {object : Resource} {owner : String}
  {options : List ApplyOption}

theorem tells_append {before after : List Exchange} (told : store.Tells (before ++ after) last) :
    ∃ middle, store.Tells before middle ∧ middle.Tells after last := by
  induction before generalizing store with
  | nil => exact ⟨store, .nothing store, told⟩
  | cons exchange rest ih =>
      cases told with
      | call answered later =>
          obtain ⟨middle, first, second⟩ := ih later
          exact ⟨middle, .call answered first, second⟩

theorem lookup?_answer_of_controlledBy (held : store.lookup? object.key = some object)
    (controlled : object.ControlledBy owner) (withheld : Withholds options owner) {call : Call}
    (carries : call.Carries options)
    (spared : Exchange.Spares object.key ⟨call, (store.answer call).1⟩) :
    (store.answer call).2.lookup? object.key = some object := by
  by_cases writes : call.Writes object.key
  · cases call with
    | upsert role body asked =>
        obtain rfl : asked = options := carries
        have there : store.lookup? body.key = some object := writes ▸ held
        obtain ⟨wanted, -, -, refused⟩ :=
          answer_upsert_of_controlledBy there controlled withheld role
        rw [refused]
        exact held
    | update role body =>
        have there : store.lookup? body.key = some object := writes ▸ held
        refine absurd writes (spared role body ?_)
        simp only [answer, update_of_lookup? there]
    | _ => cases writes
  · rw [lookup?_answer_of_not_writes writes]
    exact held

theorem lookup?_of_tells {talk : List Exchange} (told : store.Tells talk last)
    (held : store.lookup? object.key = some object) (controlled : object.ControlledBy owner)
    (withheld : Withholds options owner)
    (carries : ∀ exchange ∈ talk, exchange.1.Carries options)
    (spared : ∀ exchange ∈ talk, exchange.Spares object.key) :
    last.lookup? object.key = some object := by
  induction told with
  | nothing store => exact held
  | call answered later ih =>
      obtain ⟨carriesHere, carriesLater⟩ := List.forall_mem_cons.mp carries
      obtain ⟨sparedHere, sparedLater⟩ := List.forall_mem_cons.mp spared
      rw [answered] at sparedHere
      have still := lookup?_answer_of_controlledBy held controlled withheld carriesHere sparedHere
      exact ih still carriesLater sparedLater

end MemoryStore

theorem Dialogue.tells_run {State α : Type} {world : World State} {stored : State → MemoryStore}
    (serves : world.Serves stored) (dialogue : Dialogue α) (state : State) :
    (stored state).Tells (dialogue.run world state).exchanges
      (stored (dialogue.run world state).state) := by
  induction dialogue generalizing state with
  | done result => exact .nothing _
  | note event next ih => exact ih state
  | heed operation next ih =>
      simp only [run]
      cases world.stopped? state with
      | some reason => exact .nothing _
      | none => exact ih state
  | ask call next ih =>
      obtain ⟨answered, left⟩ := serves call state
      have later := ih (world.answer call state).1 (world.answer call state).2
      rw [left] at later
      exact .call answered later

namespace Pass

variable {pass : Pass}

theorem Part.carries {task : Task} {talk : List Exchange} (part : pass.Part task talk) :
    ∀ exchange ∈ talk, exchange.1.Carries pass.options := by
  cases part with
  | present workload reply => simp [Call.Carries]
  | equip workload body traitType reply told => simp [Call.Carries]
  | look visit reply => simp [Call.Carries]
  | write visit scope body reply => simp [Call.Carries]

/-- How it is told that an upsert was refused: for a desired workload, or for a trait of one, which
goes by the names that it has before it is told about its workload. -/
inductive Reports (pass : Pass) : Role → Resource → StoreError → ApplyError → Prop where
  | workload {workload : Workload} (desired : workload ∈ pass.workloads) (refusal : StoreError) :
      Reports pass .workload workload.body refusal (.applyWorkload workload.body.name refusal)
  | trait {workload : Workload} {body : Resource} (desired : workload ∈ pass.workloads)
      (its : body ∈ workload.traits) (traitType : TraitType) (refusal : StoreError) :
      Reports pass .trait
        (body.inject traitType.injectionPath? workload.reference).resource refusal
        (.applyTrait body.apiVersion body.kind body.name (.store refusal))

theorem refused_upsert_ends {State : Type} (request : Request) {world : World State}
    {state : State} {before after : List Exchange} {role : Role} {body : Resource}
    {options : List ApplyOption} {refusal : StoreError}
    (split : (pass.run request world state).exchanges =
      before ++ ⟨.upsert role body options, .error refusal⟩ :: after) :
    after = [] ∧ ∃ error, pass.Reports role body refusal error ∧
      (pass.run request world state).result = .error error := by
  have course := pass.course_run world.answer request state
  obtain ⟨unsaid, goesOn⟩ := pass.exchanges_prefix_live request world state
  have live := goesOn.symm
  rw [split, List.append_assoc, List.cons_append] at live
  obtain ⟨task, begun, reaches, ⟨tolerated, -⟩ | ⟨last, error, blames, failed⟩⟩ :=
    course.refused live
  · obtain ⟨visit, -, -, -, impossible, -⟩ := tolerated
    cases impossible
  · obtain ⟨rfl, rfl⟩ := List.append_eq_nil_iff.mp last
    rw [List.append_nil, exchanges_run, exchanges_run] at goesOn
    have same := pass.guarded_dialogue.run_eq_live goesOn
    have stopped : (pass.run request world state).result = .error error :=
      (congrArg Run.result same).trans failed
    refine ⟨rfl, error, ?_, stopped⟩
    cases blames with
    | workload workload refusal =>
        exact .workload ((pass.present_mem_tasks_iff workload).mp reaches.mem) refusal
    | trait reference trait traitType refusal =>
        obtain ⟨workload, desired, its, rfl⟩ :=
          (pass.equip_mem_tasks_iff reference trait).mp reaches.mem
        exact .trait desired its traitType refusal

/-- An object that another controls than the upserts of a pass ask for, and that no scope is written
over, is as it was after the pass, however that ends. An upsert of its key is refused for it, does
nothing to the store, and is the end of the pass. -/
theorem leaves_controlled_alone {State : Type} (pass : Pass) (request : Request)
    (world : World State) (stored : State → MemoryStore) (serves : world.Serves stored)
    (state : State) (object : Resource) (owner uid : String)
    (held : object ∈ (stored state).objects) (controlled : object.ControlledBy owner)
    (asked : .mustBeControllableBy uid ∈ pass.options) (foreign : owner ≠ uid) :
    let run := pass.run request world state
    (∀ body, ⟨.update .scope body, .ok ()⟩ ∈ run.exchanges → body.key ≠ object.key) →
      (stored run.state).lookup? object.key = some object ∧
      ∀ before role body options reply after,
        run.exchanges = before ++ ⟨.upsert role body options, reply⟩ :: after →
        body.key = object.key →
          after = [] ∧ (stored state).Tells before (stored run.state) ∧
          ∃ wanted error, .mustBeControllableBy wanted ∈ pass.options ∧ owner ≠ wanted ∧
            reply = .error (.controlled body owner wanted) ∧
            pass.Reports role body (.controlled body owner wanted) error ∧
            run.result = .error error := by
  intro run spared
  have there := MemoryStore.mem_iff_lookup?.mp held
  have withheld : Withholds pass.options owner := ⟨uid, asked, foreign⟩
  have carries : ∀ exchange ∈ run.exchanges, exchange.1.Carries pass.options :=
    pass.forall_exchanges request world state fun _ _ part => part.carries
  have roles : ∀ exchange ∈ run.exchanges, exchange.1.InRole :=
    pass.forall_exchanges request world state fun _ _ part => part.inRole
  have spares : ∀ exchange ∈ run.exchanges, exchange.Spares object.key := by
    rintro exchange said role body rfl
    obtain rfl : role = .scope := roles _ said
    exact spared body said
  have told : (stored state).Tells run.exchanges (stored run.state) := by
    rw [pass.exchanges_run]
    exact Dialogue.tells_run serves pass.dialogue state
  refine ⟨MemoryStore.lookup?_of_tells told there controlled withheld carries spares, ?_⟩
  intro before role body options reply after split same
  rw [split] at told carries spares
  obtain ⟨carriesBefore, carriesThen⟩ := List.forall_mem_append.mp carries
  obtain ⟨sparesBefore, -⟩ := List.forall_mem_append.mp spares
  obtain rfl : options = pass.options := (List.forall_mem_cons.mp carriesThen).1
  obtain ⟨middle, first, second⟩ := MemoryStore.tells_append told
  have still := MemoryStore.lookup?_of_tells first there controlled withheld carriesBefore
    sparesBefore
  cases second with
  | call answered later =>
      obtain ⟨wanted, options, other, refused⟩ := MemoryStore.answer_upsert_of_controlledBy
        (same ▸ still) controlled withheld role
      rw [refused] at answered later
      subst answered
      obtain ⟨rfl, error, reports, failed⟩ := refused_upsert_ends request split
      cases later
      exact ⟨rfl, first, wanted, error, options, other, rfl, reports, failed⟩

def takenRoute : Resource :=
  (((Resource.new "v1" "Route" "r").withNamespace "n").set "metadata.ownerReferences"
    (.array [.object [("uid", .string "u")],
      .object [("controller", .bool true), ("uid", .string "v")]])).resource

def claiming : Pass := { handover with options := [.mustBeControllableBy "u"] }

theorem claiming_leaves_taken_route :
    let store := handoverStore.insert takenRoute
    let run := claiming.run { requestId := "r" } MemoryStore.world store
    run.state.lookup? takenRoute.key = some takenRoute ∧
      store.Tells (run.exchanges.take 2) run.state ∧ run.exchanges.drop 3 = [] ∧
      run.result = .error (.applyTrait "v1" "Route" "r"
        (.store (.conflict "Route" "r" "controlled by v, not u"))) := by
  intro store run
  have controlled : takenRoute.ControlledBy "v" :=
    ⟨[.object [("uid", .string "u")]], .object [("controller", .bool true), ("uid", .string "v")],
      [], rfl, by decide, rfl, rfl⟩
  have foreign : "v" ≠ "u" := by decide
  have unsaid : run.calls.all (· matches .upsert .. | .traitDefinition ..) = true := by
    decide +kernel
  have spared (body : Resource) (said : ⟨.update .scope body, .ok ()⟩ ∈ run.exchanges) :
      body.key ≠ takenRoute.key := by
    have made : .update .scope body ∈ run.calls := by
      rw [run.calls_eq]
      exact List.mem_map_of_mem said
    cases List.all_eq_true.mp unsaid _ made
  have held : takenRoute ∈ store.objects :=
    MemoryStore.mem_iff_lookup?.mpr (handoverStore.lookup?_insert_self takenRoute)
  obtain ⟨kept, final⟩ := leaves_controlled_alone claiming { requestId := "r" } MemoryStore.world id
    MemoryStore.serves_world store takenRoute "v" "u" held controlled List.mem_cons_self foreign
    spared
  have ends := final (run.exchanges.take 2) .trait
    (((Resource.new "v1" "Route" "r").withNamespace "n").set "spec.workload"
      successor.reference.entry).resource claiming.options
    (.error (.conflict "Route" "r" "controlled by v, not u")) (run.exchanges.drop 3) (by rfl)
    (by decide +kernel)
  exact ⟨kept, ends.2.1, ends.1, rfl⟩

end Pass

end Rollout
