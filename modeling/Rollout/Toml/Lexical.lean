import Rollout.Text.Decimal
import Rollout.Toml.Reader

/-! The smallest parts of a settings document: blanks, comments, quoted texts, numbers, and
dates and times. -/

set_option autoImplicit false

namespace Rollout.Toml

open Reader

def isVisible (character : Char) : Bool :=
  character == '\t' || (32 ≤ character.toNat && character.toNat ≠ 127)

def isBlank (character : Char) : Bool := character == ' ' || character == '\t'

def isBareKey (character : Char) : Bool :=
  character.isAlphanum || character == '_' || character == '-'

def isHex (character : Char) : Bool :=
  Text.isDigit character || ('a' ≤ character && character ≤ 'f') ||
    ('A' ≤ character && character ≤ 'F')

def isOctal (character : Char) : Bool := '0' ≤ character && character ≤ '7'

def isBinary (character : Char) : Bool := character == '0' || character == '1'

def hexValue (character : Char) : Nat :=
  if Text.isDigit character then Text.digitValue character
  else if 'a' ≤ character then character.toNat - 'a'.toNat + 10
  else character.toNat - 'A'.toNat + 10

def readBase (base : Nat) (digits : List Char) : Nat :=
  digits.foldl (fun number digit => base * number + hexValue digit) 0

def blanks : Reader Unit := do
  let _ ← takeWhile isBlank

def newline : Reader Unit := char '\n' <|> word "\r\n"

def comment : Reader Unit := do
  char '#'
  let _ ← takeWhile isVisible

def lineEnd : Reader Unit := newline <|> atEnd

def lineRest : Reader Unit := do
  blanks
  let _ ← maybe comment
  lineEnd

/-- Blanks, line breaks and comments, as they may stand between the items of an array. -/
def gap : Reader Unit := do
  let _ ← many (
    (do let _ ← takeSome isBlank) <|>
    newline <|>
    (do comment; newline))

def ofCodePoint? (codePoint : Nat) : Option Char :=
  if h : codePoint.isValidChar then some (Char.ofNatAux codePoint h) else none

def codePoint (length : Nat) : Reader Char := do
  let digits ← exactly length isHex
  match ofCodePoint? (readBase 16 digits) with
  | some character => return character
  | none => failure

def escaped : Reader Char := do
  char '\\'
  match ← oneOf ['b', 't', 'n', 'f', 'r', '"', '\\', 'u', 'U'] with
  | 'b' => return '\x08'
  | 't' => return '\t'
  | 'n' => return '\n'
  | 'f' => return '\x0c'
  | 'r' => return '\r'
  | 'u' => codePoint 4
  | 'U' => codePoint 8
  | other => return other

def basicString : Reader String := do
  char '"'
  let text ← many (
    satisfying (fun character => isVisible character && character ≠ '"' && character ≠ '\\') <|>
    escaped)
  char '"'
  return String.ofList text

def literalString : Reader String := do
  char '\''
  let text ← takeWhile fun character => isVisible character && character ≠ '\''
  char '\''
  return String.ofList text

/-- A backslash at the end of a line swallows all blanks and line breaks up to the next
character. -/
def continuation : Reader Unit := do
  char '\\'
  blanks
  newline
  let _ ← many ((do let _ ← takeSome isBlank) <|> newline)

def innerQuotes (quote : Char) : Reader (List Char) := do
  let quotes ← takeSome (· == quote)
  if quotes.length < 3 then return quotes else failure

/-- The three quotes that end a text, with up to two more in front that belong to it. -/
def closingQuotes (quote : Char) : Reader (List Char) := fun input =>
  let count := (input.takeWhile (· == quote)).length
  if count < 3 then none
  else
    let inner := min (count - 3) 2
    some (List.replicate inner quote, input.drop (inner + 3))

/-- A text over several lines; a line break right behind the opening quotes is not part of
it, and every other one counts as a line feed. -/
def multiline (quote : Char) (piece : Reader (List Char)) : Reader String := do
  let _ ← (List.replicate 3 quote).forM char
  let _ ← maybe newline
  let pieces ← many (innerQuotes quote <|> (do newline; return ['\n']) <|> piece)
  let last ← closingQuotes quote
  return String.ofList (pieces.flatten ++ last)

def multilineBasicString : Reader String :=
  multiline '"' (
    takeSome (fun character => isVisible character && character ≠ '"' && character ≠ '\\') <|>
    (do continuation; return []) <|>
    (do return [← escaped]))

def multilineLiteralString : Reader String :=
  multiline '\'' (takeSome fun character => isVisible character && character ≠ '\'')

def string : Reader String :=
  multilineBasicString <|> basicString <|> multilineLiteralString <|> literalString

def digits (allowed : Char → Bool) : Reader (List Char) := do
  let first ← satisfying allowed
  let rest ← many (satisfying allowed <|> (do char '_'; satisfying allowed))
  return first :: rest

def sign : Reader Char := do
  return (← maybe (oneOf ['+', '-'])).getD '+'

def wholePart : Reader (List Char) := do
  match ← next? with
  | some '0' => char '0'; return ['0']
  | _ => digits Text.isDigit

def integerLimit : Nat := 0x8000000000000000

def decimalInteger : Reader Unit := do
  let sign ← sign
  let number := Text.readDecimal (← wholePart)
  if number < integerLimit || (sign = '-' && number = integerLimit) then return else failure

def prefixedInteger (opening : String) (base : Nat) (allowed : Char → Bool) : Reader Unit := do
  word opening
  if readBase base (← digits allowed) < integerLimit then return else failure

def integer : Reader Unit :=
  prefixedInteger "0x" 16 isHex <|> prefixedInteger "0o" 8 isOctal <|>
    prefixedInteger "0b" 2 isBinary <|> decimalInteger

/-- Whether a nonnegative decimal number is rounded to infinity as a double: it is at least
half a unit in the last place above the largest finite one. -/
def overflows (mantissa : Nat) (exponent : Int) : Bool :=
  let limit := Nat.pow 2 1024 - Nat.pow 2 970
  let magnitude : Int := (Nat.toDigits 10 mantissa).length + exponent
  if mantissa = 0 || magnitude < 300 then false
  else if 320 < magnitude then true
  else if 0 ≤ exponent then limit ≤ mantissa * Nat.pow 10 exponent.toNat
  else limit * Nat.pow 10 (-exponent).toNat ≤ mantissa

def exponentPart : Reader Int := do
  let _ ← oneOf ['e', 'E']
  let sign ← sign
  let value : Int := Text.readDecimal (← digits Text.isDigit)
  return if sign = '-' then -value else value

def fractionPart : Reader (List Char) := do
  char '.'
  digits Text.isDigit

/-- A number with a fraction or an exponent; one above all doubles is refused, one below is
not. -/
def fractional : Reader Unit := do
  let sign ← sign
  let whole ← wholePart
  let fraction? ← maybe fractionPart
  let exponent? ← maybe exponentPart
  match fraction?, exponent? with
  | none, none => failure
  | _, _ =>
    let fraction := fraction?.getD []
    let exponent := exponent?.getD 0 - fraction.length
    if sign = '+' && overflows (Text.readDecimal (whole ++ fraction)) exponent then failure
    else return

def specialFloat : Reader Unit := do
  let _ ← sign
  word "inf" <|> word "nan"

def bounded (length low high : Nat) : Reader Nat := do
  let number := Text.readDecimal (← exactly length Text.isDigit)
  if low ≤ number && number ≤ high then return number else failure

def isLeapYear (year : Nat) : Bool :=
  year % 4 == 0 && (year % 100 != 0 || year % 400 == 0)

def daysIn (year month : Nat) : Nat :=
  if month == 2 then (if isLeapYear year then 29 else 28)
  else if [4, 6, 9, 11].contains month then 30
  else 31

def date : Reader Unit := do
  let year ← bounded 4 0 9999
  char '-'
  let month ← bounded 2 1 12
  char '-'
  let _ ← bounded 2 1 (daysIn year month)

/-- A leap second is allowed. -/
def time : Reader Unit := do
  let _ ← bounded 2 0 23
  char ':'
  let _ ← bounded 2 0 59
  char ':'
  let _ ← bounded 2 0 60
  let _ ← maybe (do char '.'; takeSome Text.isDigit)

def offset : Reader Unit := do
  match ← oneOf ['Z', 'z', '+', '-'] with
  | 'Z' | 'z' => return
  | _ =>
    let _ ← bounded 2 0 23
    char ':'
    let _ ← bounded 2 0 59

def dateTime : Reader Unit :=
  (do
    date
    let _ ← maybe (do
      let _ ← oneOf ['T', 't', ' ']
      time
      maybe offset)) <|>
  time

end Rollout.Toml
