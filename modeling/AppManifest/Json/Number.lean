import AppManifest.Binary64.Shortest

/-!
# JSON numbers

A JSON number is an integer or a finite double-precision number. The two never compare equal, also
when they have the same value: `1` and `1.0` are different numbers. Integers are written in decimal;
floating-point numbers are written as their shortest decimal (`Number.render`).
-/

namespace AppManifest

/-- A JSON number. -/
inductive Number where
  | integer (value : Int)
  | float (value : Binary64)
deriving DecidableEq, Inhabited

namespace Number

/-- Equality of numbers of the same kind: both floating-point zeros are equal. -/
def same : Number → Number → Bool
  | .integer first, .integer second => first == second
  | .float first, .float second => first == second
  | _, _ => false

instance : BEq Number :=
  ⟨same⟩

/-- A number is equal to itself. -/
theorem same_self : (value : Number) → value.same value
  | .integer value => beq_self_eq_true value
  | .float value => Binary64.same_self value

instance : ReflBEq Number :=
  ⟨fun {value} => same_self value⟩

/-- The zeros between the point and the first digit, or after the last digit. -/
def zeros (count : Nat) : List Char :=
  List.replicate count '0'

/-- The exponent of a number in scientific form, always with its sign. -/
def renderExponent (exponent : Int) : List Char :=
  (if exponent < 0 then '-' else '+') :: (toString exponent.natAbs).toList

/-- A decimal as text. The digits are written positionally when the exponent of the leading one is
from -5 to 15, with at least one digit on each side of the point, and else with one digit before the
point and an exponent. -/
def renderDecimal (decimal : Decimal) : List Char :=
  let digits := (toString decimal.digits).toList
  let leading := decimal.exponent + digits.length - 1
  if 0 ≤ leading ∧ leading ≤ 15 then
    let whole := leading.toNat + 1
    if digits.length ≤ whole then digits ++ zeros (whole - digits.length) ++ ['.', '0']
    else digits.take whole ++ '.' :: digits.drop whole
  else if -5 ≤ leading ∧ leading < 0 then
    '0' :: '.' :: zeros (-leading - 1).toNat ++ digits
  else
    match digits with
    | [] => []
    | [digit] => digit :: 'e' :: renderExponent leading
    | digit :: rest => digit :: '.' :: rest ++ 'e' :: renderExponent leading

/-- A floating-point number as text; the sign of zero is kept. -/
def renderFloat (value : Binary64) : String :=
  (if value.negative then "-" else "") ++
    String.ofList (renderDecimal (Binary64.shortest value.magnitude))

/-- A number as JSON text. -/
def render : Number → String
  | .integer value => toString value
  | .float value => renderFloat value

end Number

end AppManifest
