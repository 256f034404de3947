/-! Digits, the numbers and characters that they spell, and the integers that fit into a word. -/

namespace SchemaPolicy.Text

/-- The value of a hexadecimal digit. -/
def hexDigit? (c : Char) : Option Nat :=
  if '0' ≤ c ∧ c ≤ '9' then some (c.toNat - '0'.toNat)
  else if 'a' ≤ c ∧ c ≤ 'f' then some (c.toNat - 'a'.toNat + 10)
  else if 'A' ≤ c ∧ c ≤ 'F' then some (c.toNat - 'A'.toNat + 10)
  else none

/-- The character whose code point is spelled by hexadecimal digits, unless that is a surrogate or
out of range. -/
def charOfDigits? (digits : List Char) : Option Char := do
  let code ← digits.foldlM (fun value c => (hexDigit? c).map (16 * value + ·)) 0
  if code.isValidChar then some (Char.ofNat code) else none

/-- The number that digits spell in a base. -/
def numberOf (base : Nat) (digits : List Char) : Nat :=
  digits.foldl (fun value c => base * value + (hexDigit? c).getD 0) 0

/-- Whether a word of 64 bits, one for the sign, holds an integer. -/
def fitsWord (value : Int) : Bool := -0x8000000000000000 ≤ value && value < 0x8000000000000000

end SchemaPolicy.Text
