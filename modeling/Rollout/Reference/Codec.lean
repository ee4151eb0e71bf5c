import Rollout.Record
import Rollout.Reference

set_option autoImplicit false

namespace Rollout.Reference

def columnNames : List String := ["apiVersion", "kind", "name", "namespace", "uid"]

def ofTree? (tree : Tree) : Option Reference := do
  match ← Record.columns columnNames tree with
  | [apiVersion, kind, name, space, uid] =>
    some {
      apiVersion := ← Record.required Tree.text? apiVersion
      kind := ← Record.required Tree.text? kind
      name := ← Record.required Tree.text? name
      space? := ← Record.optional Tree.text? space
      uid? := ← Record.optional Tree.text? uid }
  | _ => none

def toTree (reference : Reference) : Tree :=
  .object (
    [("apiVersion", .string reference.apiVersion), ("kind", .string reference.kind),
      ("name", .string reference.name)] ++
    Record.entry? "namespace" reference.space? ++ Record.entry? "uid" reference.uid?)

end Rollout.Reference
