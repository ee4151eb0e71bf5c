import Rollout.Engine.Apply

set_option autoImplicit false

namespace Rollout

structure Stores where
  main : MemoryStore := {}
  scopes? : Option MemoryStore := none
  deriving DecidableEq

namespace Stores

/-- Scopes are fetched and written back where they are kept; all else concerns the main
store. -/
def answer (stores : Stores) (call : Call) : call.Reply × Stores :=
  match call, stores.scopes? with
  | .get key, some scopes =>
    let answered := scopes.answer (.get key)
    (answered.1, { stores with scopes? := some answered.2 })
  | .update role body, some scopes =>
    let answered := scopes.answer (.update role body)
    (answered.1, { stores with scopes? := some answered.2 })
  | other, _ =>
    let answered := stores.main.answer other
    (answered.1, { stores with main := answered.2 })

end Stores

structure Fault where
  position : Nat
  cancels : Bool := false
  error? : Option StoreError := none
  object? : Option Resource := none
  path? : Option String := none
  deriving DecidableEq

/-- The reply that stands in for the store's, if any; a refusal comes first. -/
def Fault.reply? (fault : Fault) (call : Call) : Option call.Reply :=
  match fault.error? with
  | some error => some (.error error)
  | none =>
    match call with
    | .get _ => fault.object?.map .ok
    | .traitDefinition _ _ => fault.path?.map fun path => .ok { workloadRefPath? := some path }
    | _ => none

/-- The state of a site: its stores, whether the context is cancelled, and how many calls have
been made. -/
structure Site where
  stores : Stores := {}
  cancelled : Bool := false
  calls : Nat := 0
  deriving DecidableEq

namespace Site

def answer (faults : List Fault) (call : Call) (site : Site) : call.Reply × Site :=
  let fault? := faults.find? fun fault => fault.position = site.calls
  let counted : Site :=
    { site with
      cancelled := site.cancelled || fault?.any (·.cancels)
      calls := site.calls + 1 }
  match fault?.bind (·.reply? call) with
  | some reply => (reply, counted)
  | none =>
    let answered := site.stores.answer call
    (answered.1, { counted with stores := answered.2 })

/-- The world of a site under planted faults, for a context with the given deadline at an hour
that stands still. -/
def world (faults : List Fault) (deadline? : Option Nat) (now : Nat) : World Site where
  stopped? site := StopReason.of? site.cancelled deadline? now
  answer := answer faults

end Site

end Rollout
