import Rollout.Toml.Lexical
import Rollout.Toml.Table

set_option autoImplicit false

namespace Rollout.Toml

open Reader

def simpleKey : Reader String :=
  basicString <|> literalString <|> (do return String.ofList (← takeSome isBareKey))

/-- How deep values and keys may nest. -/
def nestingLimit : Nat := 79

def key : Reader (List String × String) := do
  let parts ← separated (do blanks; let part ← simpleKey; blanks; return part) (char '.')
  match parts.getLast? with
  | some last => if parts.length ≤ nestingLimit then return (parts.dropLast, last) else failure
  | none => failure

def array (element : Reader Value) : Reader Value := do
  char '['
  gap
  let elements ← orEmpty (separated (do gap; let value ← element; gap; return value) (char ','))
  if !elements.isEmpty then
    let _ ← maybe (char ',')
  gap
  char ']'
  return .array

def assignment (value : Reader Value) : Reader Assignment := do
  let (path, name) ← key
  char '='
  blanks
  return { path := path, name := name, value := ← value }

/-- A table on one line; it is closed to everything outside its braces. -/
def inlineTable (element : Reader Value) : Reader Value := do
  char '\x7b'
  let assignments ← orEmpty (separated
    (do let item ← assignment element; blanks; return item) (char ','))
  blanks
  char '\x7d'
  match assignments.foldlM Entries.assign [] with
  | some _ => return .inlineTable
  | none => failure

def boolean : Reader Value :=
  (do word "true"; return .boolean true) <|> (do word "false"; return .boolean false)

def scalar : Reader Value :=
  (do return .string (← string)) <|>
  boolean <|>
  (do dateTime; return .dateTime) <|>
  (do fractional <|> specialFloat <|> integer; return .number)

/-- A value with at most so many arrays and tables inside one another. -/
def value : Nat → Reader Value
  | 0 => scalar
  | depth + 1 => array (value depth) <|> inlineTable (value depth) <|> scalar

inductive Line where
  | empty
  | header (isElement : Bool) (path : List String) (name : String)
  | assignment (assignment : Assignment)

def header : Reader Line := do
  char '['
  let isElement := (← maybe (char '[')).isSome
  let (path, name) ← key
  char ']'
  if isElement then char ']'
  return .header isElement path name

def line : Reader Line := do
  blanks
  (do comment; lineEnd; return .empty) <|>
  (do newline; return .empty) <|>
  (do let line ← header; lineRest; return line) <|>
  (do let item ← assignment (value nestingLimit); lineRest; return .assignment item)

def lines : Reader (List Line) := do
  let _ ← maybe (char '\ufeff')
  let lines ← many line
  blanks
  atEnd
  return lines

/-- The assignments in front of the first header, and the sections. -/
def outline : List Line → List Assignment × List Section
  | [] => ([], [])
  | .empty :: rest => outline rest
  | .assignment item :: rest =>
    let below := outline rest
    (item :: below.1, below.2)
  | .header isElement path name :: rest =>
    let below := outline rest
    ([], { isElement := isElement, path := path, name := name, assignments := below.1 } :: below.2)

def document? (text : String) : Option Entries := do
  let (lines, _) ← lines text.toList
  let (top, parts) := outline lines
  parts.foldlM Entries.define (← top.foldlM Entries.assign [])

end Rollout.Toml
