import ValueBuilder.Binary64.Basic

/-!
# The shortest decimal of a number

A number is written with the fewest digits that read back as it. All reals between the midpoints to
its two neighbours round to it, and the midpoints themselves do if its significand is even. For one
digit, two digits and so on, the two decimals of that many digits around the number are tried until
one lies in that interval. Where both do, the nearer one is taken, and of two equally near ones the
even one. `NumberStyle` says how the digits are laid out.
-/

namespace ValueBuilder.Binary64

/-- The reals that round to a number: `low * 2 ^ scale` to `high * 2 ^ scale` around
`middle * 2 ^ scale`. -/
structure Interval where
  /-- The lower end. -/
  low : Nat
  /-- The number itself. -/
  middle : Nat
  /-- The upper end. -/
  high : Nat
  /-- The power of two that the three are multiplied with. -/
  scale : Int
  /-- The two ends round to the number as well. -/
  closed : Bool
  deriving DecidableEq, Repr

/-- The interval of the number `m * 2 ^ e`. Below a power of two the neighbour is half as far. -/
def interval (m : Nat) (e : Int) : Interval where
  low := if m = leastWide ∧ leastExponent < e then 4 * m - 1 else 4 * m - 2
  middle := 4 * m
  high := 4 * m + 2
  scale := e - 2
  closed := m % 2 == 0

namespace Interval

/-- The end `x` of an interval in units of `10 ^ k`, as numerator and denominator. -/
def inUnits (i : Interval) (x : Nat) (k : Int) : Nat × Nat :=
  (x * twoTo i.scale * tenTo (-k), twoTo (-i.scale) * tenTo k)

/-- A Boolean test that `c * 10 ^ k` rounds to the number. -/
def holds (i : Interval) (c : Nat) (k : Int) : Bool :=
  let (low, den) := i.inUnits i.low k
  let (high, _) := i.inUnits i.high k
  if i.closed then low ≤ c * den && c * den ≤ high else low < c * den && c * den < high

/-- The exponent of the greatest power of ten that is not above the number. No positive number is
below `10 ^ -400`. -/
def decimalOrder (i : Interval) : Int :=
  let (num, den) := i.inUnits i.middle (-400)
  ((Nat.toDigits 10 (num / den)).length : Int) - 401

/-- The decimal of the given number of digits that rounds to the number, nearest to it, if one
does. -/
def ofLength? (i : Interval) (length : Nat) : Option (Nat × Int) :=
  let k := i.decimalOrder - length + 1
  let (num, den) := i.inUnits i.middle k
  let below := num / den
  let nearest := roundQuotient num den
  let other := if nearest = below then below + 1 else below
  if i.holds nearest k then some (nearest, k)
  else if i.holds other k then some (other, k)
  else none

/-- The shortest decimal that rounds to the number, digits and exponent. Seventeen digits always
suffice. -/
def shortest (i : Interval) : Nat × Int :=
  ((List.range 17).findSome? fun n => i.ofLength? (n + 1)).getD (0, 0)

end Interval

/-- How numbers are laid out. -/
structure NumberStyle where
  /-- The least order of magnitude that is written without an exponent. -/
  leastPlain : Int := -4
  /-- The greatest order of magnitude that is written without an exponent. -/
  greatestPlain : Int := 15
  /-- The least number of digits in an exponent. -/
  exponentWidth : Nat := 2
  /-- The word for infinity. -/
  infinity : String
  /-- The word for the result of no operation. -/
  notANumber : String

namespace NumberStyle

/-- The fractional part after its point; a number without one is marked by a zero. -/
def plain (digits : List Char) (order : Int) : List Char :=
  if order < 0 then
    '0' :: '.' :: (List.replicate (-order - 1).toNat '0' ++ digits)
  else
    let whole := order.toNat + 1
    let fraction := digits.drop whole
    digits.take whole ++ List.replicate (whole - digits.length) '0' ++
      '.' :: (if fraction.isEmpty then ['0'] else fraction)

/-- One digit before the point, and an exponent with its sign. -/
def scientific (style : NumberStyle) (digits : List Char) (order : Int) : List Char :=
  let exponent := Nat.toDigits 10 order.natAbs
  let fraction := digits.drop 1
  digits.take 1 ++ (if fraction.isEmpty then [] else '.' :: fraction) ++
    'e' :: (if order < 0 then '-' else '+') ::
    (List.replicate (style.exponentWidth - exponent.length) '0' ++ exponent)

/-- A positive decimal, whose last digit may be a zero only after carrying into a new place. -/
def decimal (style : NumberStyle) (digits : Nat) (exponent : Int) : List Char :=
  let written := Nat.toDigits 10 digits
  let order := exponent + written.length - 1
  let significant := (written.reverse.dropWhile (· == '0')).reverse
  if style.leastPlain ≤ order ∧ order ≤ style.greatestPlain then plain significant order
  else style.scientific significant order

/-- The text of a number. -/
def text (style : NumberStyle) : Binary64 → String
  | .nan => style.notANumber
  | .infinite negative => (if negative then "-" else "") ++ style.infinity
  | .finite negative m e =>
    let digits :=
      if m = 0 then plain ['0'] 0
      else
        let (digits, exponent) := (interval m e).shortest
        style.decimal digits exponent
    (if negative then "-" else "") ++ String.ofList digits

end NumberStyle

end ValueBuilder.Binary64
