set_option autoImplicit false

namespace Rollout.Toml

abbrev Reader := StateT (List Char) Option

namespace Reader

variable {α β : Type}

def satisfying (allowed : Char → Bool) : Reader Char := fun input =>
  match input with
  | [] => none
  | first :: rest => if allowed first then some (first, rest) else none

def char (expected : Char) : Reader Unit := do
  let _ ← satisfying (· == expected)

def word (expected : String) : Reader Unit := expected.toList.forM char

def oneOf (choices : List Char) : Reader Char := satisfying choices.contains

def takeWhile (allowed : Char → Bool) : Reader (List Char) := fun input =>
  some (input.takeWhile allowed, input.dropWhile allowed)

def takeSome (allowed : Char → Bool) : Reader (List Char) := do
  let first ← satisfying allowed
  let rest ← takeWhile allowed
  return first :: rest

def exactly (count : Nat) (allowed : Char → Bool) : Reader (List Char) :=
  (List.replicate count ()).mapM fun _ => satisfying allowed

def atEnd : Reader Unit := fun input =>
  match input with
  | [] => some ((), [])
  | _ => none

def next? : Reader (Option Char) := fun input => some (input.head?, input)

def maybe (reader : Reader α) : Reader (Option α) :=
  (some <$> reader) <|> pure none

/-- As often as the reader succeeds and takes something. -/
def many (reader : Reader α) : Reader (List α) := fun input =>
  match reader input with
  | none => some ([], input)
  | some (item, rest) =>
    if rest.length < input.length then
      (many reader rest).map fun later => (item :: later.1, later.2)
    else some ([], input)
termination_by input => input.length

def separated (reader : Reader α) (separator : Reader β) : Reader (List α) := do
  let first ← reader
  let rest ← many (do
    let _ ← separator
    reader)
  return first :: rest

def orEmpty (reader : Reader (List α)) : Reader (List α) := reader <|> pure []

end Reader

end Rollout.Toml
