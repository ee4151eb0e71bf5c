set_option autoImplicit false

namespace Rollout.Text

def decimalDigits (number : Nat) : List Char := Nat.toDigits 10 number

def decimal (number : Nat) : String := String.ofList (decimalDigits number)

def isDigit (character : Char) : Bool :=
  '0'.toNat ≤ character.toNat && character.toNat ≤ '9'.toNat

def digitValue (character : Char) : Nat := character.toNat - '0'.toNat

/-- The number that a run of digits denotes; leading zeros do not matter. -/
def readDecimal (digits : List Char) : Nat :=
  digits.foldl (fun number digit => 10 * number + digitValue digit) 0

def wordLimit : Nat := 0x10000000000000000

end Rollout.Text
