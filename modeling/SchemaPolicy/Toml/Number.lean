import SchemaPolicy.Decimal.Shortest
import SchemaPolicy.Reader
import SchemaPolicy.Text.Digit
import SchemaPolicy.Toml.Value

/-! Numbers, dates and times of a TOML document. Each reader takes its value off the front of a
text, or gives nothing. -/

namespace SchemaPolicy.Toml

namespace Number

open Reader

/-- The digits at the front of a text, of which single underscores may separate neighbours; `none`
where an underscore stands apart. -/
def digitsWith (isDigit : Char → Bool) : List Char → Option (List Char × List Char)
  | [] => some ([], [])
  | '_' :: c :: rest =>
    if isDigit c then (digitsWith isDigit rest).map fun found => (c :: found.1, found.2) else none
  | c :: rest =>
    if isDigit c then (digitsWith isDigit rest).map fun found => (c :: found.1, found.2)
    else if c == '_' then none
    else some ([], c :: rest)

/-- Takes one or more digits; single underscores may separate neighbours. -/
def digits (isDigit : Char → Bool) : Reader (List Char) := do
  let first ← charWhere isDigit
  let others ← fun s => digitsWith isDigit s
  return first :: others

/-- Takes a sign, if there is one; tells whether it is a minus sign. -/
def sign : Reader Bool := do
  if ← accept '-' then return true
  discard (accept '+')
  return false

/-- Takes an integer in base ten: its sign and its digits, which do not start with a superfluous
zero. -/
def signed : Reader (Bool × List Char) := do
  let negative ← sign
  if ← accept '0' then return (negative, ['0'])
  return (negative, ← digits Char.isDigit)

/-- The value of an integer that fits into a word; any other is refused. -/
def bounded (value : Int) : Reader Value := do
  require (Text.fitsWord value)
  return .integer value

/-- Takes an integer in a base, with a zero and the mark of the base in front. -/
def inBase (mark : Char) (base : Nat) (isDigit : Char → Bool) : Reader Value := do
  char '0'
  char mark
  bounded (Text.numberOf base (← digits isDigit))

/-- Takes an integer. One in another base than ten has no sign. -/
def integer : Reader Value := do
  match ← get with
  | '0' :: 'x' :: _ => inBase 'x' 16 fun c => (Text.hexDigit? c).isSome
  | '0' :: 'o' :: _ => inBase 'o' 8 fun c => '0' ≤ c && c ≤ '7'
  | '0' :: 'b' :: _ => inBase 'b' 2 fun c => c == '0' || c == '1'
  | _ =>
    let (negative, digits) ← signed
    let magnitude : Int := Text.numberOf 10 digits
    bounded (if negative then -magnitude else magnitude)

/-- Takes the exponent of a number, with its mark. -/
def exponent : Reader Int := do
  discard (charWhere fun c => c == 'e' || c == 'E')
  let negative ← sign
  let magnitude : Int := Text.numberOf 10 (← digits Char.isDigit)
  return if negative then -magnitude else magnitude

/-- Takes the point of a number and the digits behind it. -/
def fraction : Reader (List Char) := do
  char '.'
  digits Char.isDigit

/-- Takes a number with a fraction, an exponent or both. A number too great for a double is
refused, but one too far below zero counts as infinite. -/
def decimal : Reader Value := do
  let (negative, whole) ← signed
  let fraction? ← optional fraction
  let exponent? ← optional exponent
  require (fraction?.isSome ∨ exponent?.isSome)
  let places := fraction?.getD []
  let magnitude := Decimal.toFloat (Text.numberOf 10 (whole ++ places))
    (exponent?.getD 0 - (places.length : Int))
  require (negative = true ∨ magnitude.isFinite = true)
  return .float (if negative then -magnitude else magnitude)

/-- Takes an infinity or the value that is no number. -/
def special : Reader Value := do
  let negative ← sign
  match ← peek with
  | some 'i' =>
    text "inf"
    return .float (if negative then -1.0 / 0.0 else 1.0 / 0.0)
  | _ =>
    text "nan"
    return .float (0.0 / 0.0)

end Number

namespace DateTime

open Reader

/-- Takes a number of so many digits. -/
def field : (width : Nat) → Reader Nat
  | 0 => return 0
  | width + 1 => do
    let c ← charWhere Char.isDigit
    return (c.toNat - '0'.toNat) * 10 ^ width + (← field width)

/-- Takes a number of two digits that lies within bounds. -/
def fieldWithin (least greatest : Nat) : Reader Nat := do
  let number ← field 2
  require (least ≤ number ∧ number ≤ greatest)
  return number

/-- Whether a year has a leap day. -/
def isLeap (year : Nat) : Bool := year % 4 == 0 && (year % 100 != 0 || year % 400 == 0)

/-- The number of days in a month. -/
def daysIn (year month : Nat) : Nat :=
  match month with
  | 2 => if isLeap year then 29 else 28
  | 4 | 6 | 9 | 11 => 30
  | _ => 31

/-- Takes a date, which has to be one of the calendar. -/
def date : Reader Unit := do
  let year ← field 4
  char '-'
  let month ← fieldWithin 1 12
  char '-'
  discard (fieldWithin 1 (daysIn year month))

/-- Takes a time of day, with seconds. A minute may have a leap second. -/
def time : Reader Unit := do
  discard (fieldWithin 0 23)
  char ':'
  discard (fieldWithin 0 59)
  char ':'
  discard (fieldWithin 0 60)
  discard (optional do
    char '.'
    let places ← takeWhile Char.isDigit
    require (places ≠ []))

/-- Takes the offset of a time, or the letter that stands for none. -/
def zone : Reader Unit := do
  let mark ← charWhere fun c => "Zz+-".toList.contains c
  if mark == '+' || mark == '-' then
    discard (fieldWithin 0 23)
    char ':'
    discard (fieldWithin 0 59)

/-- Takes a date, with or without a time of day behind it, or a time of day. -/
def any : Reader Value := do
  match ← optional date with
  | some _ =>
    discard (optional do
      discard (charWhere fun c => "Tt ".toList.contains c)
      time
      discard (optional zone))
  | none => time
  return .dateTime

end DateTime

/-- Takes a number, a date or a time. Integers come last, as dates and fractions start like one. -/
def Reader.numeric : Reader Value := do
  if let some found ← optional DateTime.any then return found
  if let some found ← optional Number.decimal then return found
  if let some found ← optional Number.special then return found
  Number.integer

end SchemaPolicy.Toml
