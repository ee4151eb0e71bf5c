import Rollout.Proofs.Tasks

/-! Plays: what may be said in a dialogue, whoever answers and whenever the context is done. A
run in any world is a play, so that what holds of all plays holds against every store. -/

set_option autoImplicit false

namespace Rollout

namespace Dialogue

variable {α β : Type}

inductive Play : Dialogue α → List Exchange → Except ApplyError α → Prop where
  | done (result : Except ApplyError α) : Play (.done result) [] result
  | note {event : Event} {next : Dialogue α} {talk : List Exchange}
      {result : Except ApplyError α} (later : Play next talk result) :
      Play (.note event next) talk result
  | stopped (operation : String) (next : Dialogue α) (reason : StopReason) :
      Play (.heed operation next) [] (.error (.cancelled operation reason))
  | heeded {operation : String} {next : Dialogue α} {talk : List Exchange}
      {result : Except ApplyError α} (later : Play next talk result) :
      Play (.heed operation next) talk result
  | asked {call : Call} {next : call.Reply → Dialogue α} {talk : List Exchange}
      {result : Except ApplyError α} (reply : call.Reply) (later : Play (next reply) talk result) :
      Play (.ask call next) (⟨call, reply⟩ :: talk) result

theorem play_run {State : Type} (world : World State) (dialogue : Dialogue α) (state : State) :
    dialogue.Play (dialogue.run world state).exchanges (dialogue.run world state).result := by
  induction dialogue generalizing state with
  | done result => exact .done result
  | note event next ih => exact .note (ih state)
  | heed operation next ih =>
      simp only [run]
      cases world.stopped? state with
      | some reason => exact .stopped operation next reason
      | none => exact .heeded (ih state)
  | ask call next ih => exact .asked (world.answer call state).1 (ih _ (world.answer call state).2)

/-- A play that goes on is a play of the first part and, unless that fails, one of the second. -/
theorem play_bind {first : Dialogue α} {second : α → Dialogue β} {talk : List Exchange}
    {result : Except ApplyError β} (play : (first.bind second).Play talk result) :
    (∃ error, result = .error error ∧ first.Play talk (.error error)) ∨
      ∃ value before after, talk = before ++ after ∧ first.Play before (.ok value) ∧
        (second value).Play after result := by
  induction first generalizing talk with
  | done outcome =>
      cases outcome with
      | error error =>
          cases play
          exact .inl ⟨error, rfl, .done _⟩
      | ok value => exact .inr ⟨value, [], talk, rfl, .done _, play⟩
  | note event next ih =>
      cases play with
      | note later =>
          rcases ih later with ⟨error, failed, short⟩ | ⟨value, before, after, split, one, other⟩
          · exact .inl ⟨error, failed, .note short⟩
          · exact .inr ⟨value, before, after, split, .note one, other⟩
  | heed operation next ih =>
      cases play with
      | stopped _ _ reason => exact .inl ⟨_, rfl, .stopped operation next reason⟩
      | heeded later =>
          rcases ih later with ⟨error, failed, short⟩ | ⟨value, before, after, split, one, other⟩
          · exact .inl ⟨error, failed, .heeded short⟩
          · exact .inr ⟨value, before, after, split, .heeded one, other⟩
  | ask call next ih =>
      cases play with
      | asked reply later =>
          rcases ih reply later with ⟨error, failed, short⟩ |
            ⟨value, before, after, split, one, other⟩
          · exact .inl ⟨error, failed, .asked reply short⟩
          · refine .inr ⟨value, ⟨call, reply⟩ :: before, after, ?_, .asked reply one, other⟩
            rw [split, List.cons_append]

theorem play_ignore {dialogue : Dialogue α} {talk : List Exchange}
    {result : Except ApplyError Unit} (play : dialogue.ignore.Play talk result) :
    ∃ outcome, dialogue.Play talk outcome ∧ (result = .ok () → ∃ value, outcome = .ok value) := by
  rcases play_bind play with ⟨error, rfl, short⟩ | ⟨value, before, after, rfl, one, other⟩
  · exact ⟨_, short, fun impossible => by cases impossible⟩
  · cases other
    rw [List.append_nil]
    exact ⟨_, one, fun _ => ⟨value, rfl⟩⟩

theorem play_heed {operation : String} {next : Dialogue α} {talk : List Exchange}
    {result : Except ApplyError α} (play : (Dialogue.heed operation next).Play talk result) :
    (talk = [] ∧ ∃ error, result = .error error) ∨ next.Play talk result := by
  cases play with
  | stopped _ _ reason => exact .inl ⟨rfl, _, rfl⟩
  | heeded later => exact .inr later

theorem play_call {call : Call} {refused : StoreError → ApplyError} {talk : List Exchange}
    {result : Except ApplyError call.Answer}
    (play : (Dialogue.call call refused).Play talk result) :
    ∃ reply, talk = [⟨call, reply⟩] ∧ result = reply.mapError refused := by
  cases play with
  | asked reply later =>
      cases later
      exact ⟨reply, rfl, rfl⟩

/-- A call that is gone on from was answered; if the dialogue ends with it, it was refused. -/
theorem play_call_bind {call : Call} {refused : StoreError → ApplyError}
    {next : call.Answer → Dialogue α} {talk : List Exchange} {result : Except ApplyError α}
    (play : ((Dialogue.call call refused).bind next).Play talk result) :
    (∃ refusal, talk = [⟨call, .error refusal⟩] ∧ result = .error (refused refusal)) ∨
      ∃ answer after, talk = ⟨call, .ok answer⟩ :: after ∧ (next answer).Play after result := by
  cases play with
  | asked reply later =>
      cases reply with
      | error refusal =>
          cases later
          exact .inl ⟨refusal, rfl, rfl⟩
      | ok answer => exact .inr ⟨answer, _, rfl, later⟩

end Dialogue

namespace Pass

theorem play_applyTrait {pass : Pass} {workload : Reference} {body : Resource}
    {talk : List Exchange} {result : Except ApplyError Unit}
    (play : (pass.applyTrait workload body).Play talk result) :
    (∃ error, result = .error error) ∧
        (talk = [] ∨ ∃ reply, talk = [⟨.traitDefinition body.apiVersion body.kind, reply⟩]) ∨
      ∃ traitType reply, (body.inject traitType.injectionPath? workload).failure = none ∧
        talk = [⟨.traitDefinition body.apiVersion body.kind, .ok traitType⟩,
          ⟨.upsert .trait (body.inject traitType.injectionPath? workload).resource pass.options,
            reply⟩] ∧ (result = .ok () → reply = .ok ()) := by
  rw [applyTrait_eq] at play
  rcases Dialogue.play_heed play with ⟨rfl, failed⟩ | asks
  · exact .inl ⟨failed, .inl rfl⟩
  rcases Dialogue.play_call_bind asks with ⟨refusal, rfl, rfl⟩ | ⟨traitType, after, rfl, typed⟩
  · exact .inl ⟨⟨_, rfl⟩, .inr ⟨.error refusal, rfl⟩⟩
  rw [equip] at typed
  cases injected : (body.inject traitType.injectionPath? workload).failure with
  | some error =>
      simp only [injected] at typed
      cases typed
      exact .inl ⟨⟨_, rfl⟩, .inr ⟨.ok traitType, rfl⟩⟩
  | none =>
      simp only [injected] at typed
      rcases Dialogue.play_heed typed with ⟨rfl, failed⟩ | upserts
      · exact .inl ⟨failed, .inr ⟨.ok traitType, rfl⟩⟩
      rcases Dialogue.play_call_bind upserts with ⟨refusal, rfl, rfl⟩ | ⟨answer, rest, rfl, told⟩
      · exact .inr ⟨traitType, .error refusal, injected, rfl, nofun⟩
      · cases told with
        | note done =>
            cases done
            exact .inr ⟨traitType, .ok (), injected, rfl, fun _ => rfl⟩

end Pass

namespace Enrolment

variable {config : Config}

theorem play_edit {key workload : Reference} {scope : Resource}
    {change : List Tree → Option (List Tree)} {unchanged : Event} {talk : List Exchange}
    {result : Except ApplyError Bool}
    (play : (edit config key workload scope change unchanged).Play talk result) :
    (talk = [] ∧ ((∃ value, result = .ok value) → revision config change scope = .ok none)) ∨
      ∃ body reply, revision config change scope = .ok (some body) ∧
        talk = [⟨.update .scope body, reply⟩] ∧
          ((∃ value, result = .ok value) → reply = .ok ()) := by
  rw [edit_eq] at play
  cases revised : revision config change scope with
  | error error =>
      rw [revised] at play
      cases play
      exact .inl ⟨rfl, fun ⟨_, impossible⟩ => by cases impossible⟩
  | ok outcome =>
      rw [revised] at play
      cases outcome with
      | none =>
          cases play with
          | note later =>
              cases later
              exact .inl ⟨rfl, fun _ => rfl⟩
      | some body =>
          rcases Dialogue.play_heed play with ⟨rfl, error, rfl⟩ | writes
          · exact .inl ⟨rfl, fun ⟨_, impossible⟩ => by cases impossible⟩
          rcases Dialogue.play_call_bind writes with
            ⟨refusal, rfl, rfl⟩ | ⟨answer, after, rfl, last⟩
          · exact .inr ⟨body, .error refusal, rfl, rfl, fun ⟨_, impossible⟩ => by cases impossible⟩
          · cases last
            exact .inr ⟨body, .ok (), rfl, rfl, fun _ => rfl⟩

theorem Visit.play_dialogue {visit : Visit} {talk : List Exchange}
    {result : Except ApplyError Unit} (play : (visit.dialogue config).Play talk result) :
    (talk = [] ∧ ∃ error, result = .error error) ∨
      (∃ refusal, talk = [⟨.get visit.key, .error refusal⟩] ∧
        (result = .ok () → visit.tolerates config refusal = true)) ∨
        (∃ scope, talk = [⟨.get visit.key, .ok scope⟩] ∧
          (result = .ok () → visit.Settled config scope)) ∨
          ∃ scope body reply, revision config visit.change scope = .ok (some body) ∧
            talk = [⟨.get visit.key, .ok scope⟩, ⟨.update .scope body, reply⟩] ∧
              (result = .ok () → reply = .ok ()) := by
  rw [Visit.dialogue_eq] at play
  obtain ⟨outcome, whole, finished⟩ := Dialogue.play_ignore play
  rcases Dialogue.play_heed whole with ⟨rfl, error, rfl⟩ | fetches
  · refine .inl ⟨rfl, ?_⟩
    cases result with
    | error error => exact ⟨error, rfl⟩
    | ok value =>
        obtain ⟨_, impossible⟩ := finished rfl
        cases impossible
  cases fetches with
  | asked reply later =>
      cases reply with
      | error refusal =>
          simp only [react] at later
          split at later
          · rename_i tolerated
            cases later with
            | note done =>
                cases done
                exact .inr (.inl ⟨refusal, rfl, fun _ => tolerated⟩)
          · cases later
            refine .inr (.inl ⟨refusal, rfl, ?_⟩)
            intro succeeded
            obtain ⟨_, impossible⟩ := finished succeeded
            cases impossible
      | ok scope =>
          rcases play_edit later with ⟨rfl, settled⟩ | ⟨body, reply, revised, rfl, accepted⟩
          · exact .inr (.inr (.inl ⟨scope, rfl, fun succeeded => settled (finished succeeded)⟩))
          · exact .inr (.inr (.inr ⟨scope, body, reply, revised, rfl,
              fun succeeded => accepted (finished succeeded)⟩))

end Enrolment

end Rollout
