/-! Shortest decimals: the fewest digits that read back to a double. -/

namespace SchemaPolicy.Decimal

/-- The positive rational `numerator / denominator` and the ends of the interval of numbers that
are rounded to it. The ends have the same denominator, and belong to the interval if `closed`. -/
structure Rounded where
  numerator : Nat
  denominator : Nat
  low : Nat
  high : Nat
  closed : Bool
deriving Repr

/-- The double `m * 2 ^ q`. Halfway to a neighbour is two quarters of a unit, but one quarter to
the neighbour below a power of two (`tight`), whose gap is half as wide. An end of the interval is
rounded to the even neighbour. -/
def Rounded.ofBinary (m : Nat) (q : Int) (tight : Bool) : Rounded :=
  let unit := Nat.pow 2 (q - 2).toNat
  { numerator := 4 * m * unit
    denominator := Nat.pow 2 (2 - q).toNat
    low := (4 * m - if tight then 1 else 2) * unit
    high := (4 * m + 2) * unit
    closed := m % 2 == 0 }

/-- The double with these bits, without its sign. One with the least exponent has no hidden bit. -/
def Rounded.ofBits (bits : UInt64) : Rounded :=
  let exponent := ((bits >>> 52) &&& 0x7FF).toNat
  let fraction := (bits &&& 0xFFFFFFFFFFFFF).toNat
  if exponent = 0 then .ofBinary fraction (-1074) false
  else .ofBinary (0x10000000000000 + fraction) (exponent - 1075) (fraction == 0 && exponent > 1)

/-- The number `digits * 10 ^ exponent`. -/
structure Digits where
  digits : Nat
  exponent : Int
deriving Repr

/-- The zeros between the point and the first other digit of a number below one. -/
def leadingZeros (n d : Nat) : (limit : Nat) → Nat
  | 0 => 0
  | limit + 1 => if 10 * n < d then leadingZeros (10 * n) d limit + 1 else 0

/-- The least `k` for which the number is below `10 ^ k`. -/
def Rounded.scale (x : Rounded) : Int :=
  let whole := x.numerator / x.denominator
  if whole = 0 then - (leadingZeros x.numerator x.denominator 400 : Int)
  else (Nat.toDigits 10 whole).length

/-- The multiple of `10 ^ exponent` that is closest to the number among the two around it that are
rounded to it. Of two that are equally close, it is the greater one. -/
def Rounded.onGrid? (x : Rounded) (exponent : Int) : Option Nat :=
  let up := Nat.pow 10 exponent.toNat * x.denominator
  let down := Nat.pow 10 (-exponent).toNat
  let isHit := fun c =>
    let lowOk := if x.closed then x.low * down ≤ c * up else x.low * down < c * up
    let highOk := if x.closed then c * up ≤ x.high * down else c * up < x.high * down
    decide (lowOk ∧ highOk)
  let below := x.numerator * down / up
  match isHit below, isHit (below + 1) with
  | true, true =>
    if 2 * x.numerator * down < (2 * below + 1) * up then some below else some (below + 1)
  | true, false => some below
  | false, true => some (below + 1)
  | false, false => none

/-- The fewest digits that read back to the number. The first grid is that of the power of ten above
the number, which may itself be rounded to it; seventeen digits below that power are always
enough. -/
def Rounded.shortest (x : Rounded) : Digits :=
  let found := (List.range 18).findSome? fun n =>
    let exponent := x.scale - (n : Nat)
    (x.onGrid? exponent).map (⟨·, exponent⟩)
  found.getD ⟨x.numerator / x.denominator, 0⟩

/-- Digits without an exponent, with at least one digit on either side of the point. -/
def Digits.positional (d : Digits) : List Char :=
  let text := Nat.toDigits 10 d.digits
  if 0 ≤ d.exponent then text ++ List.replicate d.exponent.toNat '0' ++ ['.', '0']
  else
    let places := (-d.exponent).toNat
    let padded := List.replicate (places + 1 - text.length) '0' ++ text
    padded.take (padded.length - places) ++ '.' :: padded.drop (padded.length - places)

/-- A floating-point number with the fewest digits and no exponent. -/
def floatText (x : Float) : String :=
  if x.isNaN then "NaN"
  else
    let bits := x.toBits
    let magnitude := bits &&& 0x7FFFFFFFFFFFFFFF
    let unsigned :=
      if magnitude = 0x7FF0000000000000 then "inf".toList
      else if magnitude = 0 then "0.0".toList
      else (Rounded.ofBits magnitude).shortest.positional
    String.ofList (if bits = magnitude then unsigned else '-' :: unsigned)

/-- The double closest to `digits * 10 ^ exponent`. Numbers far outside the range of doubles are
not computed. -/
def toFloat (digits : Nat) (exponent : Int) : Float :=
  let size : Int := (Nat.toDigits 10 digits).length + exponent
  if digits = 0 ∨ size < -400 then 0.0
  else if 400 < size then 1.0 / 0.0
  else Float.ofScientific digits (decide (exponent < 0)) exponent.natAbs

end SchemaPolicy.Decimal
