/-!
# Binary floating point numbers of 64 bits

A finite number is a significand below `2^53` times a power of two whose exponent is at least
`-1074`. The significand is as large as these bounds allow, so each number has one form.
`ofDecimal` reads a decimal: it gives the nearest number, the one with an even significand of two
that are equally near, and an infinity beyond the largest finite number.
-/

namespace ValueBuilder

/-- A number of the 64-bit format. -/
inductive Binary64 where
  /-- The number `significand * 2 ^ exponent`, with its sign; zero has a sign too. -/
  | finite (negative : Bool) (significand : Nat) (exponent : Int)
  /-- An infinity. -/
  | infinite (negative : Bool)
  /-- The result of no operation. -/
  | nan
  deriving DecidableEq, Repr

namespace Binary64

/-- The exponent of the numbers next to zero. -/
def leastExponent : Int := -1074

/-- The exponent of the largest finite numbers. -/
def greatestExponent : Int := 971

/-- The bits of a significand. -/
def precision : Nat := 53

/-- The least number of full width. -/
def leastWide : Nat := Nat.pow 2 (precision - 1)

/-- Zero, with its sign. -/
def zero (negative : Bool) : Binary64 := .finite negative 0 leastExponent

/-- The number is zero, of either sign. -/
def isZero : Binary64 → Bool
  | .finite _ m _ => m == 0
  | _ => false

/-- The quotient rounded to the nearest natural number, and to the even one from half way. -/
def roundQuotient (num den : Nat) : Nat :=
  let q := num / den
  let r := num % den
  if 2 * r < den ∨ (2 * r = den ∧ q % 2 = 0) then q else q + 1

/-- The factor `2 ^ e` where `e` is positive, and one elsewhere. -/
def twoTo (e : Int) : Nat := Nat.pow 2 e.toNat

/-- The factor `10 ^ e` where `e` is positive, and one elsewhere. -/
def tenTo (e : Int) : Nat := Nat.pow 10 e.toNat

/-- The exponent of the greatest power of two that is not above `num / den`. -/
def binaryOrder (num den : Nat) : Int :=
  let e : Int := (num.log2 : Int) - den.log2
  if den * twoTo e ≤ num * twoTo (-e) then e else e - 1

/-- A significand and its exponent as a number: a significand of full width is halved, and an
exponent above the greatest one gives an infinity. -/
def assemble (negative : Bool) (m : Nat) (e : Int) : Binary64 :=
  let (m, e) := if m = 2 * leastWide then (leastWide, e + 1) else (m, e)
  if greatestExponent < e then .infinite negative else .finite negative m e

/-- The number nearest to the positive quotient `num / den`. -/
def ofQuotient (negative : Bool) (num den : Nat) : Binary64 :=
  let e := max (binaryOrder num den - (precision - 1 : Nat)) leastExponent
  assemble negative (roundQuotient (num * twoTo (-e)) (den * twoTo e)) e

/-- The number nearest to `digits * 10 ^ exponent`. Beyond `10 ^ 310` every decimal is infinite and
below `10 ^ -330` every decimal is zero, so no longer power is formed. -/
def ofDecimal (negative : Bool) (digits : Nat) (exponent : Int) : Binary64 :=
  let order : Int := exponent + (Nat.toDigits 10 digits).length
  if digits = 0 ∨ order < -330 then zero negative
  else if 310 < order then .infinite negative
  else ofQuotient negative (digits * tenTo exponent) (tenTo (-exponent))

example : ofDecimal false 1 0 = .finite false (2 ^ 52) (-52) := by decide
example : ofDecimal false 5 (-324) = .finite false 1 (-1074) := by decide +kernel
example : ofDecimal true 1 400 = .infinite true := by decide

end Binary64

end ValueBuilder
