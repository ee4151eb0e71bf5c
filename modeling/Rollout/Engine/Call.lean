import Rollout.Store.Memory
import Rollout.Workload

set_option autoImplicit false

namespace Rollout

inductive Call where
  | upsert (role : Role) (body : Resource) (options : List ApplyOption)
  | get (key : Reference)
  | update (role : Role) (body : Resource)
  | traitDefinition (apiVersion kind : String)
  deriving DecidableEq

namespace Call

abbrev Answer : Call → Type
  | .upsert _ _ _ => Unit
  | .get _ => Resource
  | .update _ _ => Unit
  | .traitDefinition _ _ => TraitType

abbrev Reply (call : Call) : Type := Except StoreError call.Answer

end Call

/-- The store's side of a call. A call that is refused leaves the store as it was. -/
def MemoryStore.answer (store : MemoryStore) (call : Call) : call.Reply × MemoryStore :=
  match call with
  | .upsert _ body options =>
    match store.upsert body options with
    | .ok after => (.ok (), after)
    | .error refusal => (.error refusal, store)
  | .get key => (store.get key, store)
  | .update _ body =>
    match store.update body with
    | .ok after => (.ok (), after)
    | .error refusal => (.error refusal, store)
  | .traitDefinition apiVersion kind => (store.traitDefinition apiVersion kind, store)

end Rollout
