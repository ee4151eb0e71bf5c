import Rollout.Text.DefaultIgnorable
import Rollout.Text.GraphemeExtend
import Rollout.Text.Unprintable

/-! Quoted text for messages. A text is shown between double quotes; quotes and backslashes
are escaped, tab, line feed, carriage return and NUL have short escapes, and every other
character that would not show as a character of its own is written as its code point. -/

set_option autoImplicit false

namespace Rollout.Text

def within (ranges : List (Nat × Nat)) (character : Char) : Bool :=
  ranges.any fun range => range.1 ≤ character.toNat && character.toNat ≤ range.2

def isPlainAscii (character : Char) : Bool :=
  32 ≤ character.toNat && character.toNat < 127

def isHalfwidthMark (character : Char) : Bool :=
  character = '\uFF9E' || character = '\uFF9F'

def isAttached (character : Char) : Bool :=
  within GraphemeExtend.ranges character && !isHalfwidthMark character

/-- A character that shows by itself: printable, visible, and not attached to the one before. -/
def showsAlone (character : Char) : Bool :=
  isPlainAscii character ||
    !(within Unprintable.ranges character || within DefaultIgnorable.ranges character ||
      isAttached character)

def codePointEscape (character : Char) : List Char :=
  '\\' :: 'u' :: '\x7b' :: (Nat.toDigits 16 character.toNat ++ ['\x7d'])

def escape (character : Char) : List Char :=
  match character with
  | '\x00' => ['\\', '0']
  | '\t' => ['\\', 't']
  | '\n' => ['\\', 'n']
  | '\r' => ['\\', 'r']
  | '"' => ['\\', '"']
  | '\\' => ['\\', '\\']
  | other => if showsAlone other then [other] else codePointEscape other

def quotedChars (text : List Char) : List Char :=
  '"' :: (text.flatMap escape ++ ['"'])

def quoted (text : String) : String :=
  String.ofList (quotedChars text.toList)

end Rollout.Text
