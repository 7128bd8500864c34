/-!
# Finite double-precision numbers

A finite binary64 number is a sign and a magnitude; the magnitude is the number's bit pattern
without the sign bit, so that magnitudes are ordered as the numbers are. Results of arithmetic are
exact quotients of natural numbers, rounded to the nearest magnitude with ties to the even one
(`Binary64.nearest`). Infinities and NaN are not numbers here: an operation that would reach them
has no result.
-/

namespace AppManifest

/-- The bit pattern above every finite magnitude. -/
def Binary64.infinity : Nat :=
  0x7FF0000000000000

/-- A finite double-precision number. -/
structure Binary64 where
  /-- The sign bit. Zero has both signs. -/
  negative : Bool
  /-- The bit pattern without the sign bit. -/
  magnitude : Nat
  /-- The exponent field is not the one of infinities and NaN. -/
  finite : magnitude < Binary64.infinity
deriving DecidableEq

namespace Binary64

/-- Positive zero. -/
def zero : Binary64 :=
  ⟨false, 0, by decide⟩

instance : Inhabited Binary64 :=
  ⟨zero⟩

/-- Equality of numbers: both zeros are equal. -/
def same (first second : Binary64) : Bool :=
  first.magnitude == second.magnitude &&
    (first.negative == second.negative || first.magnitude == 0)

instance : BEq Binary64 :=
  ⟨same⟩

/-- A number is equal to itself. -/
theorem same_self (value : Binary64) : value.same value := by
  simp [same]

instance : ReflBEq Binary64 :=
  ⟨fun {value} => same_self value⟩

/-- The integer that, scaled by `2 ^ scale`, is the magnitude's value. -/
def significand (magnitude : Nat) : Nat :=
  -- `Nat.pow` here and below: what `^` stands for depends on what is imported
  if magnitude < Nat.pow 2 52 then magnitude else Nat.pow 2 52 + magnitude % Nat.pow 2 52

/-- The power of two that scales the significand of a magnitude. -/
def scale (magnitude : Nat) : Int :=
  if magnitude < Nat.pow 2 52 then -1074 else (magnitude / Nat.pow 2 52 : Nat) - 1075

/-- The numerator of a magnitude's value. -/
def numerator (magnitude : Nat) : Nat :=
  significand magnitude * Nat.pow 2 (scale magnitude).toNat

/-- The denominator of a magnitude's value, a power of two. -/
def denominator (magnitude : Nat) : Nat :=
  Nat.pow 2 (-scale magnitude).toNat

/-- The integer nearest to a quotient, a half going to the even neighbour. -/
def roundQuotient (dividend divisor : Nat) : Nat :=
  let quotient := dividend / divisor
  let twice := 2 * (dividend % divisor)
  if divisor < twice || (twice == divisor && quotient % 2 == 1) then quotient + 1 else quotient

/-- The magnitude nearest to a quotient, a half going to the even neighbour. The result is
`infinity` or above when the quotient rounds beyond the largest finite number.

With `steps` the number of doublings of the smallest spacing, the quotient measured in that spacing
rounds to an integer below or at `2 ^ 53`; adding it to `steps * 2 ^ 52` gives the bit pattern, also
when the rounding carries into the next power of two. -/
def nearest (dividend divisor : Nat) : Nat :=
  let scaled := dividend * Nat.pow 2 1074
  let steps := Nat.log2 (scaled / divisor) - 52
  steps * Nat.pow 2 52 + roundQuotient scaled (divisor * Nat.pow 2 steps)

/-- The number of this sign and magnitude, if the magnitude is finite. -/
def ofMagnitude? (negative : Bool) (magnitude : Nat) : Option Binary64 :=
  if finite : magnitude < infinity then some ⟨negative, magnitude, finite⟩ else none

/-- The number nearest to an integer, if it is not too large. -/
def ofInt? (value : Int) : Option Binary64 :=
  ofMagnitude? (value < 0) (nearest value.natAbs 1)

/-- The product of two magnitudes, rounded. -/
def product (first second : Nat) : Nat :=
  nearest (numerator first * numerator second) (denominator first * denominator second)

/-- The quotient of two magnitudes, rounded. -/
def quotient (first second : Nat) : Nat :=
  nearest (numerator first * denominator second) (denominator first * numerator second)

/-- The magnitude nearest to a power of ten. -/
def powerOfTen (exponent : Nat) : Nat :=
  nearest (Nat.pow 10 exponent) 1

/-- Brings an exponent into the range of the powers of ten that are finite numbers, dividing the
magnitude by `10 ^ 308` for each 308 that the exponent lies too low. -/
def liftExponent (magnitude : Nat) (exponent : Int) : Nat × Int :=
  if exponent < -308 ∧ magnitude ≠ 0 then
    liftExponent (quotient magnitude (powerOfTen 308)) (exponent + 308)
  else (magnitude, exponent)
termination_by (-exponent).toNat

/-- The number written as `digits * 10 ^ exponent`. The digits are rounded first and the result is
rounded again after the multiplication or division by a power of ten. There is no result for a
number that is too large. -/
def ofDecimal? (negative : Bool) (digits : Nat) (exponent : Int) : Option Binary64 :=
  let (magnitude, exponent) := liftExponent (nearest digits 1) exponent
  if magnitude = 0 then ofMagnitude? negative 0
  else if exponent < 0 then
    ofMagnitude? negative (quotient magnitude (powerOfTen exponent.natAbs))
  else if exponent ≤ 308 then
    ofMagnitude? negative (product magnitude (powerOfTen exponent.natAbs))
  else none

end Binary64

end AppManifest
