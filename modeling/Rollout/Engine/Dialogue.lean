import Rollout.Engine.Call
import Rollout.Engine.Event
import Rollout.Error.Basic

/-! Dialogues with a store. A dialogue is a finished result, a look at the context before the
step that is named, a call to the store and what is done with each possible reply, or an event
for the log. It is run in a world, which says whether the context is done and answers the
calls. -/

set_option autoImplicit false

namespace Rollout

inductive Dialogue (α : Type) where
  | done (result : Except ApplyError α)
  | heed (operation : String) (next : Dialogue α)
  | ask (call : Call) (next : call.Reply → Dialogue α)
  | note (event : Event) (next : Dialogue α)

namespace Dialogue

variable {α β : Type}

def bind (first : Dialogue α) (next : α → Dialogue β) : Dialogue β :=
  match first with
  | .done (.ok value) => next value
  | .done (.error error) => .done (.error error)
  | .heed operation rest => .heed operation (rest.bind next)
  | .ask call rest => .ask call fun reply => (rest reply).bind next
  | .note event rest => .note event (rest.bind next)

instance : Monad Dialogue where
  pure value := .done (.ok value)
  bind := bind

def fail (error : ApplyError) : Dialogue α := .done (.error error)

def tell (event : Event) : Dialogue Unit := .note event (.done (.ok ()))

/-- Goes on unless the context is done; if it is, the operation is aborted. -/
def check (operation : String) : Dialogue Unit := .heed operation (.done (.ok ()))

/-- A call that has to succeed; a refusal is reported as the given error. -/
def call (call : Call) (refused : StoreError → ApplyError) : Dialogue call.Answer :=
  .ask call fun reply => .done (reply.mapError refused)

def each (step : α → Dialogue Unit) : List α → Dialogue Unit
  | [] => .done (.ok ())
  | item :: rest => (step item).bind fun _ => each step rest

/-- The items for which the step says yes; the steps are taken in order. -/
def select (step : α → Dialogue Bool) : List α → Dialogue (List α)
  | [] => .done (.ok [])
  | item :: rest =>
    (step item).bind fun selected =>
      (select step rest).bind fun later =>
        .done (.ok (if selected then item :: later else later))

end Dialogue

/-- Where a dialogue is run; the state holds the store and all that may change with a call. -/
structure World (State : Type) where
  stopped? : State → Option StopReason
  answer : (call : Call) → State → call.Reply × State

inductive Entry where
  | called (call : Call) (reply : call.Reply)
  | noted (event : Event)

structure Run (State α : Type) where
  result : Except ApplyError α
  transcript : List Entry
  state : State

namespace Run

variable {State α : Type}

def calls (run : Run State α) : List Call :=
  run.transcript.filterMap fun
    | .called call _ => some call
    | .noted _ => none

def events (run : Run State α) : List Event :=
  run.transcript.filterMap fun
    | .called _ _ => none
    | .noted event => some event

def after (entry : Entry) (run : Run State α) : Run State α :=
  { run with transcript := entry :: run.transcript }

end Run

namespace Dialogue

variable {State α : Type}

def run (world : World State) : Dialogue α → State → Run State α
  | .done result, state => ⟨result, [], state⟩
  | .heed operation next, state =>
    match world.stopped? state with
    | some reason => ⟨.error (.cancelled operation reason), [], state⟩
    | none => next.run world state
  | .ask call next, state =>
    let answered := world.answer call state
    ((next answered.1).run world answered.2).after (.called call answered.1)
  | .note event next, state => (next.run world state).after (.noted event)

end Dialogue

end Rollout
