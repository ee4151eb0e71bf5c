/-! Contexts: the ids of a request, and when work for it has to stop. A context and its clones
form a family that is cancelled as a whole; a deadline belongs to one context and is never
put off. -/

set_option autoImplicit false

namespace Rollout

structure Request where
  requestId : String
  traceId? : Option String := none
  deriving DecidableEq

inductive StopReason where
  | cancelled
  | deadlineExceeded
  deriving DecidableEq

namespace StopReason

def message : StopReason → String
  | .cancelled => "context cancelled"
  | .deadlineExceeded => "context deadline exceeded"

/-- A cancelled context is cancelled whatever its deadline; a deadline has passed at its very
moment. -/
def of? (cancelled : Bool) (deadline? : Option Nat) (now : Nat) : Option StopReason :=
  if cancelled then some .cancelled
  else
    match deadline? with
    | some deadline => if deadline ≤ now then some .deadlineExceeded else none
    | none => none

variable {cancelled : Bool} {deadline? : Option Nat} {now : Nat}

theorem of?_eq_cancelled_iff :
    of? cancelled deadline? now = some .cancelled ↔ cancelled = true := by
  cases cancelled with
  | true => exact iff_of_true rfl rfl
  | false =>
      cases deadline? with
      | none => simp [of?]
      | some deadline => by_cases passed : deadline ≤ now <;> simp [of?, passed]

theorem of?_eq_deadlineExceeded_iff :
    of? cancelled deadline? now = some .deadlineExceeded ↔
      cancelled = false ∧ ∃ deadline, deadline? = some deadline ∧ deadline ≤ now := by
  cases cancelled with
  | true => simp [of?]
  | false =>
      cases deadline? with
      | none => simp [of?]
      | some deadline => by_cases passed : deadline ≤ now <;> simp [of?, passed]

end StopReason

structure Context where
  request : Request
  family : Nat
  deadline? : Option Nat := none
  deriving DecidableEq

def Context.withDeadline (context : Context) (deadline : Nat) : Context :=
  { context with
    deadline? := some (match context.deadline? with
      | some existing => min existing deadline
      | none => deadline) }

structure Contexts where
  contexts : List Context := []
  /-- The family that each handle cancels. -/
  handles : List Nat := []
  families : Nat := 0
  cancelled : List Nat := []
  deriving DecidableEq

/-- What can be done with contexts and handles; they are named by their places. -/
inductive ContextAction where
  | create (request : Request)
  | clone (context : Nat)
  /-- A context for the same request that shares nothing else. -/
  | fresh (context : Nat)
  | handle (context : Nat)
  | copy (handle : Nat)
  | cancel (context : Nat)
  | fire (handle : Nat)
  | deadline (context moment : Nat)
  | timeout (context duration : Nat)
  deriving DecidableEq

namespace Contexts

def create (all : Contexts) (request : Request) : Contexts :=
  { all with
    contexts := all.contexts ++ [{ request := request, family := all.families }]
    families := all.families + 1 }

def cancelFamily (all : Contexts) (family : Nat) : Contexts :=
  { all with cancelled := family :: all.cancelled }

def withDeadline (all : Contexts) (place deadline : Nat) : Contexts :=
  { all with contexts := all.contexts.modify place (·.withDeadline deadline) }

/-- One action at a moment; nothing comes of it if there is no such context or handle. -/
def perform (all : Contexts) (now : Nat) : ContextAction → Option Contexts
  | .create request => some (all.create request)
  | .clone place => do
    let context ← all.contexts[place]?
    return { all with contexts := all.contexts ++ [context] }
  | .fresh place => do
    let context ← all.contexts[place]?
    return all.create context.request
  | .handle place => do
    let context ← all.contexts[place]?
    return { all with handles := all.handles ++ [context.family] }
  | .copy place => do
    let family ← all.handles[place]?
    return { all with handles := all.handles ++ [family] }
  | .cancel place => do
    let context ← all.contexts[place]?
    return all.cancelFamily context.family
  | .fire place => do
    let family ← all.handles[place]?
    return all.cancelFamily family
  | .deadline place moment => do
    let _ ← all.contexts[place]?
    return all.withDeadline place moment
  | .timeout place duration => do
    let _ ← all.contexts[place]?
    return all.withDeadline place (now + duration)

def stopReason? (all : Contexts) (context : Context) (now : Nat) : Option StopReason :=
  StopReason.of? (all.cancelled.contains context.family) context.deadline? now

end Contexts

end Rollout
