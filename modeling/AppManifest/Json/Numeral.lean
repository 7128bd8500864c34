import AppManifest.Json.Number

/-!
# Numbers as they are written

A numeral is the digits and signs of a JSON number. Its value (`Numeral.value?`) is an integer if it
has neither point nor exponent and lies in the range of integers, and a floating-point number
otherwise. Minus zero is a floating-point number too. A numeral too large for one has no value.
-/

namespace AppManifest

/-- The parts of a written number. -/
structure Numeral where
  /-- A minus sign stands in front. -/
  negative : Bool
  /-- The digits before the point, the last one first. -/
  whole : List Nat
  /-- The digits after the point, the last one first. -/
  fraction : List Nat
  /-- A minus sign stands in front of the exponent. -/
  lowering : Bool
  /-- The exponent without its sign. -/
  power : Nat
  /-- There is neither point nor exponent. -/
  integral : Bool
deriving DecidableEq

namespace Numeral

/-- The numeral without digits. -/
def blank (negative : Bool) : Numeral :=
  ⟨negative, [], [], false, 0, true⟩

/-- The exponent with its sign. -/
def exponent (numeral : Numeral) : Int :=
  if numeral.lowering then -(numeral.power : Int) else numeral.power

/-- Appends digits to a number as long as it stays below `2 ^ 64`. The result is the number and how
many digits it took. -/
def gather (value : Nat) : List Nat → Nat × Nat
  | [] => (value, 0)
  | digit :: rest =>
      if value * 10 + digit < Nat.pow 2 64 then
        let (total, taken) := gather (value * 10 + digit) rest
        (total, taken + 1)
      else (value, 0)

/-- The floating-point number of a numeral. Whole digits that are not gathered raise the exponent;
gathered fraction digits lower it and the remaining ones are dropped. -/
def float? (numeral : Numeral) : Option Number :=
  let (whole, wholeTaken) := gather 0 numeral.whole.reverse
  let (digits, fractionTaken) := gather whole numeral.fraction.reverse
  let exponent := numeral.exponent + (numeral.whole.length - wholeTaken : Nat) - fractionTaken
  (Binary64.ofDecimal? numeral.negative digits exponent).map .float

/-- The integer of a numeral that has one. -/
def integer? (numeral : Numeral) : Option Number :=
  let (value, taken) := gather 0 numeral.whole.reverse
  if !numeral.integral || taken ≠ numeral.whole.length then none
  else if !numeral.negative then some (.integer value)
  else if value = 0 ∨ Nat.pow 2 63 < value then none
  else some (.integer (-value))

/-- The number that a numeral stands for, if there is one. -/
def value? (numeral : Numeral) : Option Number :=
  numeral.integer?.or numeral.float?

end Numeral

end AppManifest
