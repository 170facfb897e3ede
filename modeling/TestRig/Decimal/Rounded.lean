/-
  TestRig.Decimal.Rounded

  The decimal form of a binary floating-point number with a fixed number of places.
  The number is taken apart into its exact value, a fraction of two integers, and
  that fraction is rounded once; a fraction half-way between two neighbours goes to
  the even one.
-/

namespace TestRig.Decimal

/-- The quotient rounded to the nearest integer, to the even one of two equally near. -/
def roundDiv (num den : Nat) : Nat :=
  let quotient := num / den
  let twice := num % den * 2
  if den < twice || (twice = den && quotient % 2 = 1) then quotient + 1 else quotient

example : roundDiv 5 2 = 2 ∧ roundDiv 7 2 = 4 ∧ roundDiv 8 3 = 3 ∧ roundDiv 7 3 = 2 := by decide

/-- The exact value of a finite non-negative double, as numerator and denominator.  The sign bit
is not looked at. -/
def fractionOf (x : Float) : Nat × Nat :=
  let bits := x.toBits.toNat
  let exponent := bits / 0x10000000000000 % 0x800
  let mantissa := bits % 0x10000000000000
  let significand := if exponent = 0 then mantissa else mantissa + 0x10000000000000
  let shift := max exponent 1
  if 1075 ≤ shift then (significand * Nat.pow 2 (shift - 1075), 1)
  else (significand, Nat.pow 2 (1075 - shift))

/-- A number of `10 ^ -places` units, written with that many places behind the point. -/
def writeScaled (places scaled : Nat) : String :=
  let digits := Nat.toDigits 10 scaled
  let padded := List.replicate (places + 1 - digits.length) '0' ++ digits
  let whole := padded.take (padded.length - places)
  let fraction := padded.drop (padded.length - places)
  String.ofList (if places = 0 then whole else whole ++ '.' :: fraction)

/-- A finite non-negative double with a fixed number of places. -/
def fixed (places : Nat) (x : Float) : String :=
  let (num, den) := fractionOf x
  writeScaled places (roundDiv (num * Nat.pow 10 places) den)

end TestRig.Decimal
