import Rollout.Proofs.Convergence
import Rollout.Proofs.Disturbance
import Rollout.Proofs.Failure
import Rollout.Proofs.Frame

/-! Traits that are told about their workload. Against every client, whenever the context is done,
the upserts of traits are those of the desired traits in their order, each with the body that its
type wants; and what a store accepted in such an upsert stays there until it is written over. -/

set_option autoImplicit false

namespace Rollout

namespace Resource

/-- Where in a body its identity is read from. -/
def identityPlaces : List (List Segment) :=
  [["apiVersion"], ["kind"], ["metadata", "name"], ["metadata", "namespace"],
    ["metadata", "uid"]].map (·.map .field)

/-- The other body is this one, told at the path about a workload. -/
structure ToldAt (body : Resource) (path : String) (workload : Reference) (told : Resource) :
    Prop where
  entry : told.get path = .ok (.object [("apiVersion", .string workload.apiVersion),
    ("kind", .string workload.kind), ("name", .string workload.name)])
  beside : ∀ steps other others, Path.parse path = .ok steps → Path.parse other = .ok others →
    Segment.Diverge steps others → ∀ found, told.get other = .ok found ↔ body.get other = .ok found
  identity : ∀ steps, Path.parse path = .ok steps →
    (∀ place ∈ identityPlaces, ¬ steps <+: place) → told.reference = body.reference

variable {body : Resource} {path : String} {value : Tree}

theorem get_set_elsewhere {other : String} {steps others : List Segment}
    (parsed : Path.parse path = .ok steps) (parsed' : Path.parse other = .ok others)
    (diverge : Segment.Diverge steps others) (value found : Tree) :
    (body.set path value).resource.get other = .ok found ↔ body.get other = .ok found := by
  simp only [get, tree_set, Tree.set_parsed parsed, Tree.get_eq_ok_iff, parsed', Except.ok.injEq,
    exists_eq_left']
  exact Tree.read_write_of_diverge diverge value body.tree found

theorem reference_set_elsewhere {steps : List Segment} (parsed : Path.parse path = .ok steps)
    (apart : ∀ place ∈ identityPlaces, ¬ steps <+: place) (value : Tree) :
    (body.set path value).resource.reference = body.reference := by
  have kept (names : List String) (place : names.map .field ∈ identityPlaces) :
      (body.set path value).resource.tree.textAt? names = body.tree.textAt? names := by
    rcases body.textAt?_set_cases path value names with same | ⟨-, above, rest, rfl, at', -⟩
    · exact same
    · rw [parsed] at at'
      cases at'
      refine absurd ?_ (apart _ place)
      rw [List.map_append]
      exact List.prefix_append _ _
  simp only [reference, apiVersion, kind, name, space?, uid?, field?_eq_textAt?,
    metadataField?_eq_textAt?]
  rw [kept ["apiVersion"] (by decide), kept ["kind"] (by decide),
    kept ["metadata", "name"] (by decide), kept ["metadata", "namespace"] (by decide),
    kept ["metadata", "uid"] (by decide)]

theorem toldAt_set {workload : Reference}
    (succeeded : (body.set path workload.entry).failure = none) :
    body.ToldAt path workload (body.set path workload.entry).resource where
  entry := get_set succeeded
  beside _ _ _ parsed parsed' diverge := get_set_elsewhere parsed parsed' diverge workload.entry
  identity _ parsed apart := reference_set_elsewhere parsed apart workload.entry

end Resource

/-- The body as it is upserted for a desired one: the same, if the type declares no path or an empty
one, and else told about the workload at that path. -/
structure TraitType.Equips (traitType : TraitType) (workload : Reference)
    (body upserted : Resource) : Prop where
  plain : traitType.workloadRefPath? = none ∨ traitType.workloadRefPath? = some "" →
    upserted = body
  told : ∀ path, traitType.workloadRefPath? = some path → path ≠ "" →
    body.ToldAt path workload upserted

theorem TraitType.equips_inject {traitType : TraitType} {workload : Reference} {body : Resource}
    (succeeded : (body.inject traitType.injectionPath? workload).failure = none) :
    traitType.Equips workload body (body.inject traitType.injectionPath? workload).resource := by
  constructor
  · intro pathless
    rcases pathless with absent | empty
    · simp only [injectionPath?, absent, Resource.inject, Option.filter_none]
    · simp [injectionPath?, empty, Resource.inject, Option.filter]
  · intro path declared inhabited
    have changed : body.inject traitType.injectionPath? workload =
        body.set path workload.entry := by
      simp [injectionPath?, declared, Resource.inject, Option.filter, inhabited]
    rw [changed] at succeeded ⊢
    exact Resource.toldAt_set succeeded

def Task.trait? : Task → Option (Reference × Resource)
  | .equip workload body => some (workload, body)
  | _ => none

def Call.trait? : Call → Option Resource
  | .upsert .trait body _ => some body
  | _ => none

def upsertedTraits (talk : List Exchange) : List Resource :=
  talk.filterMap fun exchange => exchange.1.trait?

namespace Pass

/-- The desired traits, each with the workload that owns it, in their order. -/
def traits (pass : Pass) : List (Reference × Resource) :=
  pass.workloads.flatMap fun workload => workload.traits.map fun body => (workload.reference, body)

theorem filterMap_trait? (pass : Pass) : pass.tasks.filterMap Task.trait? = pass.traits := by
  have ofVisits (planned : List Enrolment.Visit) :
      (planned.map Task.visit).filterMap Task.trait? = [] := by
    simp [Task.trait?]
  have ofWorkload (workload : Workload) : (pass.workloadTasks workload).filterMap Task.trait? =
      workload.traits.map fun body => (workload.reference, body) := by
    rw [workloadTasks, List.filterMap_append, ofVisits, List.append_nil]
    simp [Task.trait?, List.filterMap_cons, Function.comp_def]
  simp only [tasks, traits, List.filterMap_append, List.filterMap_flatMap, ofWorkload, orphanTasks,
    ofVisits]
  simp

variable {pass : Pass} {task : Task} {talk : List Exchange} {result : Except ApplyError Unit}

theorem Part.length_upsertedTraits (part : pass.Part task talk) :
    (upsertedTraits talk).length = ([task].filterMap Task.trait?).length := by
  cases part <;> rfl

theorem length_upsertedTraits {tasks : List Task} (inTurn : InTurn pass.Part tasks talk) :
    (upsertedTraits talk).length = (tasks.filterMap Task.trait?).length := by
  induction inTurn with
  | nothing => rfl
  | @next task rest here later its others ih =>
      have split : upsertedTraits (here ++ later) = upsertedTraits here ++ upsertedTraits later :=
        List.filterMap_append
      rw [split, List.length_append, its.length_upsertedTraits, ih, ← List.length_append,
        ← List.filterMap_append, List.singleton_append]

theorem Reaches.trait {workload : Reference} {body : Resource} {before begun : List Exchange}
    (reaches : pass.Reaches pass.tasks before (.equip workload body) begun)
    (none : upsertedTraits begun = []) :
    pass.traits[(upsertedTraits before).length]? = some (workload, body) := by
  obtain ⟨done, rest, earlier, split, inTurn, rfl⟩ := reaches
  have sofar : upsertedTraits (earlier ++ begun) = upsertedTraits earlier := by
    rw [upsertedTraits, List.filterMap_append]
    exact (congrArg _ none).trans (List.append_nil _)
  rw [sofar, length_upsertedTraits inTurn, ← pass.filterMap_trait?, split, List.filterMap_append]
  simp [Task.trait?]

theorem Yields.trait (yields : pass.Yields task talk result) {begun here : List Exchange}
    {upserted : Resource} {options : List ApplyOption} {reply : Except StoreError Unit}
    (split : talk = begun ++ ⟨.upsert .trait upserted options, reply⟩ :: here) :
    ∃ workload body traitType, task = .equip workload body ∧
      begun = [⟨.traitDefinition body.apiVersion body.kind, .ok traitType⟩] ∧
        options = pass.options ∧ traitType.Equips workload body upserted ∧
          (result = .ok () → reply = .ok ()) := by
  cases yields with
  | equipped workload body traitType reply told =>
      rcases split_pair split with ⟨-, impossible⟩ | ⟨rfl, same, -⟩
      · cases impossible
      · cases same
        refine ⟨workload, body, traitType, rfl, rfl, rfl, TraitType.equips_inject told, ?_⟩
        intro succeeded
        cases reply with
        | error refusal => cases succeeded
        | ok answer => rfl
  | revised visit scope reply made =>
      rcases split_pair split with ⟨-, impossible⟩ | ⟨-, impossible, -⟩
      · cases impossible
      · cases impossible
  | _ =>
      obtain ⟨-, impossible, -⟩ := split_singleton split
      cases impossible

theorem Yields.traitType (yields : pass.Yields task talk result) {begun here : List Exchange}
    {apiVersion kind : String} {traitType : TraitType}
    (split : talk = begun ++ ⟨.traitDefinition apiVersion kind, .ok traitType⟩ :: here) :
    ∃ workload body, task = .equip workload body ∧ begun = [] ∧ body.apiVersion = apiVersion ∧
      body.kind = kind ∧
        ((body.inject traitType.injectionPath? workload).failure ≠ none →
          here = [] ∧ result ≠ .ok ()) := by
  cases yields with
  | untold workload body traitType failed =>
      obtain ⟨rfl, same, rfl⟩ := split_singleton split
      cases same
      exact ⟨workload, body, rfl, rfl, rfl, rfl, fun _ => ⟨rfl, nofun⟩⟩
  | equipped workload body traitType reply told =>
      rcases split_pair split with ⟨rfl, same⟩ | ⟨-, impossible, -⟩
      · cases same
        exact ⟨workload, body, rfl, rfl, rfl, rfl, fun failed => absurd told failed⟩
      · cases impossible
  | revised visit scope reply made =>
      rcases split_pair split with ⟨-, impossible⟩ | ⟨-, impossible, -⟩
      · cases impossible
      · cases impossible
  | _ =>
      obtain ⟨-, impossible, -⟩ := split_singleton split
      cases impossible

end Pass

namespace MemoryStore

variable {store last : MemoryStore} {talk : List Exchange} {key : Key}

theorem lookup?_of_hears (heard : store.Hears talk last)
    (apart : ∀ exchange ∈ talk, ¬ exchange.1.Writes key) :
    last.lookup? key = store.lookup? key := by
  induction talk generalizing store with
  | nil => rw [heard]
  | cons exchange rest ih =>
      obtain ⟨here, later⟩ := List.forall_mem_cons.mp apart
      rcases heard with ⟨-, heard⟩ | ⟨-, heard⟩
      · exact (ih heard later).trans (lookup?_answer_of_not_writes here store)
      · exact ih heard later

theorem lookup?_of_hears_upsert {before after : List Exchange} {role : Role} {body : Resource}
    {options : List ApplyOption}
    (heard : store.Hears (before ++ ⟨.upsert role body options, .ok ()⟩ :: after) last)
    (apart : ∀ exchange ∈ after, ¬ exchange.1.Writes body.key) :
    last.lookup? body.key = some body := by
  obtain ⟨middle, -, heard⟩ := hears_append.mp heard
  obtain ⟨next, upserted, later⟩ := hears_append.mp (List.singleton_append ▸ heard)
  rw [lookup?_of_hears later apart]
  rcases Pass.hears_upsert upserted with rfl | ⟨-, refusal, impossible⟩
  · exact middle.lookup?_insert_self body
  · cases impossible

end MemoryStore

namespace Pass

/-- Every upsert of a trait that a pass makes is for the desired trait whose turn it is, right after
the question for its type, and of the body that the type wants. When the pass has succeeded, a store
that does nothing but refuse calls on the side holds that body, if its key was not written again. A
trait that cannot be told about its workload is the end of the pass. -/
theorem upserts_equipped_traits {State : Type} (pass : Pass) (request : Request)
    (world : World State) (state : State) :
    let run := pass.run request world state
    (∀ before upserted options reply after,
      run.exchanges = before ++ ⟨.upsert .trait upserted options, reply⟩ :: after →
        ∃ workload body traitType earlier,
          pass.traits[(upsertedTraits before).length]? = some (workload, body) ∧
          before = earlier ++ [⟨.traitDefinition body.apiVersion body.kind, .ok traitType⟩] ∧
          options = pass.options ∧ traitType.Equips workload body upserted ∧
          ∀ stored : State → MemoryStore, world.Disturbs stored → run.result = .ok () →
            (∀ exchange ∈ after, ¬ exchange.1.Writes upserted.key) →
              (stored run.state).lookup? upserted.key = some upserted) ∧
    ∀ before apiVersion kind traitType after,
      run.exchanges = before ++ ⟨.traitDefinition apiVersion kind, .ok traitType⟩ :: after →
        ∃ workload body,
          pass.traits[(upsertedTraits before).length]? = some (workload, body) ∧
          body.apiVersion = apiVersion ∧ body.kind = kind ∧
          ((body.inject traitType.injectionPath? workload).failure ≠ none → after = []) := by
  intro run
  have course := pass.course_run world.answer request state
  obtain ⟨unsaid, goesOn⟩ := pass.exchanges_prefix_live request world state
  have succeeds (succeeded : run.result = .ok ()) :
      (pass.run request (Client.live world.answer) state).result = .ok () :=
    run_eq_live succeeded ▸ succeeded
  constructor
  · intro before upserted options reply after split
    rw [split, List.append_assoc, List.cons_append] at goesOn
    obtain ⟨task, begun, here, outcome, reaches, yields, accepted, -⟩ :=
      course.yields_of_split goesOn.symm
    obtain ⟨workload, body, traitType, rfl, rfl, asked, equips, replied⟩ := yields.trait rfl
    have turn := reaches.trait rfl
    obtain ⟨-, -, earlier, -, -, rfl⟩ := reaches
    refine ⟨workload, body, traitType, earlier, turn, rfl, asked, equips, ?_⟩
    intro stored disturbs succeeded apart
    obtain rfl := replied (accepted (succeeds succeeded))
    have heard := Dialogue.hears_run disturbs pass.dialogue state
    rw [← pass.exchanges_run request, split] at heard
    exact MemoryStore.lookup?_of_hears_upsert heard apart
  · intro before apiVersion kind traitType after split
    rw [split, List.append_assoc, List.cons_append] at goesOn
    obtain ⟨task, begun, here, outcome, reaches, yields, -, last⟩ :=
      course.yields_of_split goesOn.symm
    obtain ⟨workload, body, rfl, rfl, version, its, untold⟩ := yields.traitType rfl
    refine ⟨workload, body, reaches.trait rfl, version, its, ?_⟩
    intro failed
    obtain ⟨rfl, stopped⟩ := untold failed
    exact (List.append_eq_nil_iff.mp (last stopped).symm).1

theorem handover_tells_route :
    let route := (((Resource.new "v1" "Route" "r").withNamespace "n").set "spec.workload"
      successor.reference.entry).resource
    let run := handover.run { requestId := "r" } MemoryStore.world handoverStore
    run.result = .ok () ∧ run.state.lookup? ⟨"v1", "Route", "n", "r"⟩ = some route := by
  intro route run
  have succeeded : run.result = .ok () := rfl
  obtain ⟨-, -, -, -, -, -, -, -, held⟩ :=
    (upserts_equipped_traits handover { requestId := "r" } MemoryStore.world handoverStore).1
      (run.exchanges.take 2) route [] (.ok ()) (run.exchanges.drop 3) (by rfl)
  exact ⟨succeeded, held id MemoryStore.disturbs_world succeeded (by decide)⟩

end Pass

end Rollout
