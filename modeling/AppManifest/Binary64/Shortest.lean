import AppManifest.Binary64.Basic

/-!
# The shortest decimal of a number

Every decimal in an interval around a number reads back as that number. The shortest decimal is the
one with the fewest digits in this interval, the nearest of several, and the even one of two equally
near. `Binary64.shortest` finds it by trying one digit, then two, up to the seventeen that always
suffice: on each decimal grid only the two neighbours of the number have to be tried.
-/

namespace AppManifest

/-- A decimal number `digits * 10 ^ exponent`. -/
structure Decimal where
  digits : Nat
  exponent : Int
deriving DecidableEq

namespace Decimal

/-- Moves zeros at the end of the digits into the exponent, at most `count` of them. -/
def dropZeros : Nat → Decimal → Decimal
  | 0, decimal => decimal
  | count + 1, decimal =>
      if decimal.digits % 10 = 0 then
        dropZeros count ⟨decimal.digits / 10, decimal.exponent + 1⟩
      else decimal

end Decimal

namespace Binary64

/-- The decimals that read back as a positive magnitude, measured in quarters of its spacing: the
magnitude itself is `4 * significand` quarters. -/
structure Interval where
  lower : Nat
  center : Nat
  upper : Nat
  /-- The ends belong to the interval. -/
  closed : Bool
  /-- A quarter is `2 ^ scale`. -/
  scale : Int

/-- The interval of a magnitude. A half goes to the even neighbour, so the ends belong to the
interval of an even magnitude; below a power of two the spacing is half as wide. -/
def interval (magnitude : Nat) : Interval where
  lower := 4 * significand magnitude -
    if magnitude % Nat.pow 2 52 = 0 ∧ Nat.pow 2 53 ≤ magnitude then 1 else 2
  center := 4 * significand magnitude
  upper := 4 * significand magnitude + 2
  closed := magnitude % 2 == 0
  scale := scale magnitude - 2

/-- The exponent of the leading decimal digit of a positive quotient. -/
def leadingExponent (dividend divisor : Nat) : Int :=
  if divisor ≤ dividend then (Nat.toDigits 10 (dividend / divisor)).length - 1
  else
    let places := (Nat.toDigits 10 (divisor / dividend)).length
    if divisor ≤ dividend * Nat.pow 10 (places - 1) then 1 - (places : Int) else -(places : Int)

/-- The nearest multiple of `10 ^ exponent` inside the interval, as a decimal. -/
def onGrid? (range : Interval) (exponent : Int) : Option Decimal :=
  let quarter := Nat.pow 2 range.scale.toNat * Nat.pow 10 (-exponent).toNat
  let unit := Nat.pow 2 (-range.scale).toNat * Nat.pow 10 exponent.toNat
  let inside (digits : Nat) : Bool :=
    if range.closed then
      range.lower * quarter ≤ digits * unit && digits * unit ≤ range.upper * quarter
    else range.lower * quarter < digits * unit && digits * unit < range.upper * quarter
  let below := range.center * quarter / unit
  let twice := 2 * (range.center * quarter % unit)
  let above := below + 1
  let candidates :=
    if unit < twice || (twice == unit && below % 2 == 1) then [above, below] else [below, above]
  (candidates.find? inside).map fun digits => ⟨digits, exponent⟩

/-- Tries grids from `exponent` downwards, at most `count` of them. -/
def firstOnGrid? (range : Interval) : Nat → Int → Option Decimal
  | 0, _ => none
  | count + 1, exponent =>
      (onGrid? range exponent).or (firstOnGrid? range count (exponent - 1))

/-- The shortest decimal that reads back as this magnitude, without zeros at its end. -/
def shortest (magnitude : Nat) : Decimal :=
  if magnitude = 0 then ⟨0, 0⟩
  else
    let leading := leadingExponent (numerator magnitude) (denominator magnitude)
    ((firstOnGrid? (interval magnitude) 17 leading).getD ⟨0, 0⟩).dropZeros 17

end Binary64

end AppManifest
