import Rollout.Path.Segment

/-! The written form of attribute paths. A path is a bare name followed by items: `.name`,
`[position]`, `[key]`, or `["key"]` with either quote. A bare name is free of dots and
brackets; an unquoted key is free of brackets and, if it is all digits, is a position; a
quoted key is free of its own quote only. There is no escape. -/

set_option autoImplicit false

namespace Rollout

inductive Malformed where
  | emptyPath
  | emptyName
  | trailingDot
  | bracketAfterDot
  | leadingBracket
  | strayClose
  | textAfterBracket
  | unterminatedQuote
  | textAfterQuote
  | nestedBracket
  | unterminatedBracket
  | emptyBrackets
  | positionTooLarge
  deriving DecidableEq

def Malformed.message : Malformed → String
  | .emptyPath => "path is empty"
  | .emptyName => "empty field name"
  | .trailingDot => "trailing '.'"
  | .bracketAfterDot => "'[' cannot follow '.'"
  | .leadingBracket => "path cannot start with '['"
  | .strayClose => "unexpected ']'"
  | .textAfterBracket => "expected '.' or '[' after ']'"
  | .unterminatedQuote => "unterminated quoted key"
  | .textAfterQuote => "expected ']' after quoted key"
  | .nestedBracket => "nested '['"
  | .unterminatedBracket => "unterminated '['"
  | .emptyBrackets => "empty brackets"
  | .positionTooLarge => "array index too large"

namespace Path

/-- Where the reader stands; names and keys read so far are kept last character first. -/
inductive Place where
  | start
  | afterDot
  | inName (read : List Char)
  | opened
  | inBrackets (read : List Char)
  | inQuotes (quote : Char) (read : List Char)
  | afterQuote (key : List Char)
  | afterBracket

def name (read : List Char) : String := String.ofList read.reverse

/-- What unquoted brackets around at least one character hold: a position if that is
all digits, else a key. -/
def bracketed (read : List Char) : Except Malformed Segment :=
  if read.all Text.isDigit then
    let position := Text.readDecimal read.reverse
    if position < Text.wordLimit then .ok (.index position) else .error .positionTooLarge
  else .ok (.field (name read))

/-- Reads on from a place to the end; the first character that cannot stand where it does
decides the error. -/
def scan : Place → List Char → Except Malformed (List Segment)
  | .start, [] => .error .emptyPath
  | .afterDot, [] => .error .trailingDot
  | .inName read, [] => .ok [.field (name read)]
  | .opened, [] => .error .unterminatedBracket
  | .inBrackets _, [] => .error .unterminatedBracket
  | .inQuotes _ _, [] => .error .unterminatedQuote
  | .afterQuote _, [] => .error .textAfterQuote
  | .afterBracket, [] => .ok []
  | .start, c :: rest =>
    if c = '.' then .error .emptyName
    else if c = '[' then .error .leadingBracket
    else if c = ']' then .error .strayClose
    else scan (.inName [c]) rest
  | .afterDot, c :: rest =>
    if c = '.' then .error .emptyName
    else if c = '[' then .error .bracketAfterDot
    else if c = ']' then .error .strayClose
    else scan (.inName [c]) rest
  | .inName read, c :: rest =>
    if c = '.' then (scan .afterDot rest).map (.field (name read) :: ·)
    else if c = '[' then (scan .opened rest).map (.field (name read) :: ·)
    else if c = ']' then .error .strayClose
    else scan (.inName (c :: read)) rest
  | .opened, c :: rest =>
    if c = '"' || c = '\'' then scan (.inQuotes c []) rest
    else if c = ']' then .error .emptyBrackets
    else if c = '[' then .error .nestedBracket
    else scan (.inBrackets [c]) rest
  | .inBrackets read, c :: rest =>
    if c = ']' then do
      let segment ← bracketed read
      (scan .afterBracket rest).map (segment :: ·)
    else if c = '[' then .error .nestedBracket
    else scan (.inBrackets (c :: read)) rest
  | .inQuotes quote read, c :: rest =>
    if c = quote then scan (.afterQuote read) rest else scan (.inQuotes quote (c :: read)) rest
  | .afterQuote key, c :: rest =>
    if c = ']' then (scan .afterBracket rest).map (.field (name key) :: ·)
    else .error .textAfterQuote
  | .afterBracket, c :: rest =>
    if c = '.' then scan .afterDot rest
    else if c = '[' then scan .opened rest
    else .error .textAfterBracket

def parse (path : String) : Except Malformed (List Segment) :=
  scan .start path.toList

private theorem map_cons_eq_ok {first : Segment} {scanned : Except Malformed (List Segment)}
    {segments : List Segment} (parsed : scanned.map (first :: ·) = .ok segments) :
    ∃ rest, segments = first :: rest := by
  cases scanned with
  | error reason => simp [Except.map] at parsed
  | ok rest => exact ⟨rest, by simpa [Except.map] using parsed.symm⟩

theorem head_of_scan_inName {read characters : List Char} {segments : List Segment}
    (parsed : scan (.inName read) characters = .ok segments) :
    ∃ name rest, segments = .field name :: rest := by
  induction characters generalizing read with
  | nil => exact ⟨name read, [], by simpa [scan] using parsed.symm⟩
  | cons c rest ih =>
    rw [scan] at parsed
    split at parsed
    · exact ⟨_, map_cons_eq_ok parsed⟩
    · split at parsed
      · exact ⟨_, map_cons_eq_ok parsed⟩
      · split at parsed
        · simp at parsed
        · exact ih parsed

theorem head_of_parse {path : String} {segments : List Segment}
    (parsed : parse path = .ok segments) : ∃ name rest, segments = .field name :: rest := by
  unfold parse at parsed
  cases characters : path.toList with
  | nil => simp [characters, scan] at parsed
  | cons c rest =>
    rw [characters, scan] at parsed
    split at parsed
    · simp at parsed
    · split at parsed
      · simp at parsed
      · split at parsed
        · simp at parsed
        · exact head_of_scan_inName parsed

end Path

end Rollout
