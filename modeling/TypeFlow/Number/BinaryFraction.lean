/-!
# Binary fractions of limited precision

A quotient of whole numbers is kept as the nearest number with 53 significant
binary digits, and printed with a fixed number of decimal places.  Of two
equally near neighbours the even one is taken, in both roundings.  A number
that reaches `2 ^ 1024` after rounding is out of range, and printed as
infinite.
-/

namespace TypeFlow

/-- The whole number nearest to `numerator / denominator`, ties to even. -/
def roundDiv (numerator denominator : Nat) : Nat :=
  let quotient := numerator / denominator
  let doubled := 2 * (numerator % denominator)
  if doubled < denominator then quotient
  else if denominator < doubled then quotient + 1
  else if quotient % 2 = 0 then quotient
  else quotient + 1

/-- The number `mantissa * 2 ^ exponent`, with a sign. -/
structure BinaryFraction where
  negative : Bool
  mantissa : Nat
  exponent : Int
  deriving DecidableEq, Repr

namespace BinaryFraction

/-- Number of significant binary digits. -/
def precision : Nat := 53

/-- Magnitudes below `2 ^ rangeExponent` are in range. -/
def rangeExponent : Nat := 1024

/-- `numerator / denominator / 2 ^ exponent` as a quotient. -/
def rescale (numerator denominator : Nat) (exponent : Int) : Nat × Nat :=
  (numerator * Nat.pow 2 (-exponent).toNat, denominator * Nat.pow 2
    exponent.toNat)

/-- The exponent at which the quotient has exactly `precision` digits before
the point. -/
def exponentOf (numerator denominator : Nat) : Int :=
  let guess : Int := numerator.log2 - denominator.log2 - (precision - 1 : Nat)
  let scaled := rescale numerator denominator guess
  if scaled.1 / scaled.2 < Nat.pow 2 (precision - 1) then guess - 1 else guess

/-- The nearest fraction to a quotient of natural numbers with a sign. -/
def ofRatio (negative : Bool) (numerator denominator : Nat) : BinaryFraction :=
  if numerator = 0 || denominator = 0 then ⟨false, 0, 0⟩
  else
    let exponent := exponentOf numerator denominator
    let scaled := rescale numerator denominator exponent
    ⟨negative, roundDiv scaled.1 scaled.2, exponent⟩

/-- The nearest fraction to a quotient of integers. -/
def ofQuotient (dividend divisor : Int) : BinaryFraction :=
  ofRatio (decide (dividend < 0) != decide (divisor < 0)) dividend.natAbs
    divisor.natAbs

/-- The fraction as a quotient of natural numbers, without its sign. -/
def ratio (fraction : BinaryFraction) : Nat × Nat :=
  (fraction.mantissa * Nat.pow 2 fraction.exponent.toNat,
    Nat.pow 2 (-fraction.exponent).toNat)

/-- Whether the magnitude is small enough to be kept. -/
def inRange (fraction : BinaryFraction) : Bool :=
  fraction.ratio.1 < Nat.pow 2 rangeExponent * fraction.ratio.2

/-- The nearest fraction to a multiple. -/
def times (fraction : BinaryFraction) (factor : Nat) : BinaryFraction :=
  ofRatio fraction.negative (fraction.ratio.1 * factor) fraction.ratio.2

/-- The decimal digits of a number, at least `width` of them. -/
def paddedDigits (width value : Nat) : String :=
  let digits := toString value
  String.ofList (List.replicate (width - digits.length) '0') ++ digits

/-- The magnitude with a fixed number of decimal places. -/
def fixedMagnitude (fraction : BinaryFraction) (places : Nat) : String :=
  let scale := Nat.pow 10 places
  let units := roundDiv (fraction.ratio.1 * scale) fraction.ratio.2
  toString (units / scale) ++ "." ++ paddedDigits places (units % scale)

/-- The fraction with a fixed number of decimal places; `inf` out of range. -/
def fixed (fraction : BinaryFraction) (places : Nat) : String :=
  let sign := if fraction.negative then "-" else ""
  sign ++ if fraction.inRange then fraction.fixedMagnitude places else "inf"

end BinaryFraction

end TypeFlow
