import CiFront.Number.Decimal
/-!
# Binary64 numbers and their shortest text

A finite binary64 number is a signed integer significand times a power of two. A decimal is read as the
nearest such number, a tie going to the even significand. A number is written with the coarsest decimal
grid that has a point among the reals nearer to it than to its neighbours, so that it reads back, and of
two such points the nearer one. All of this is exact integer arithmetic.
-/

namespace CiFront

/-- The number `significand * 2 ^ exponent`, negated if `negative`. -/
structure Double where
  negative : Bool
  significand : Nat
  exponent : Int
  deriving DecidableEq, Repr

namespace Double

/-- The least exponent, that of the subnormal numbers. -/
def minExponent : Int := -1074

/-- The greatest exponent of a significand of 53 bits. -/
def maxExponent : Int := 971

/-- The value of a significand's leading bit where the number is not subnormal. -/
def leadingBit : Nat := 0x10000000000000

/-- The quotient of two naturals rounded to the nearest integer, a tie going to the even one. -/
def roundDiv (num den : Nat) : Nat :=
  let q := num / den
  let r := num % den
  if 2 * r < den then q else if den < 2 * r then q + 1 else q + q % 2

/-- The fraction `num / den * base ^ power`, as a numerator and a denominator. -/
def scale (base : Nat) (power : Int) (num den : Nat) : Nat × Nat :=
  let factor := base.pow power.natAbs
  if power < 0 then (num, den * factor) else (num * factor, den)

/-- The number nearest to a positive fraction; `none` if it lies beyond the greatest number. -/
def ofFraction? (negative : Bool) (num den : Nat) : Option Double :=
  let rough := max minExponent ((num.log2 : Int) - den.log2 - 53)
  let (n, d) := scale 2 (-rough) num den
  let exponent := if 2 * leadingBit ≤ n / d then rough + 1 else rough
  let (n, d) := scale 2 (-exponent) num den
  let significand := roundDiv n d
  let (significand, exponent) :=
    if significand = 2 * leadingBit then (leadingBit, exponent + 1) else (significand, exponent)
  if maxExponent < exponent then none else some ⟨negative, significand, exponent⟩

/-- The number nearest to `digits * 10 ^ power`; `none` if it lies beyond the greatest number. -/
def ofDecimal? (negative : Bool) (digits : Nat) (power : Int) : Option Double :=
  let size := (Decimal.digits digits).length + power
  if digits = 0 ∨ size < -330 then some ⟨negative, 0, minExponent⟩
  else if 330 < size then none
  else
    let (num, den) := scale 10 power digits 1
    ofFraction? negative num den

/-- The point of the grid `10 ^ power` that stands for `m * 2 ^ e`: a point at least half-way to neither
neighbour of the number, the nearer one if there are two, the even one if they are equally near. -/
def gridPoint? (m : Nat) (e power : Int) : Option Nat :=
  let below := if m = leadingBit ∧ minExponent < e then 4 * m - 1 else 4 * m - 2
  let (num, den) := scale 2 (e - 2) 1 1
  let (num, den) := scale 10 (-power) num den
  let inside (point : Nat) : Bool :=
    if m % 2 = 0 then below * num ≤ point * den && point * den ≤ (4 * m + 2) * num
    else below * num < point * den && point * den < (4 * m + 2) * num
  let floor := 4 * m * num / den
  let nearest := roundDiv (4 * m * num) den
  let other := if nearest = floor then floor + 1 else floor
  if 0 < nearest ∧ inside nearest then some nearest
  else if 0 < other ∧ inside other then some other
  else none

/-- The shortest digits that read back as a positive number, and the power of ten they count. -/
def shortest (m : Nat) (e : Int) : Nat × Int :=
  let grid (step : Nat) : Option (Nat × Int) :=
    let power : Int := 310 - step
    (gridPoint? m e power).map fun point => (point, power)
  ((List.range 660).findSome? grid).getD (m, 0)

/-- How a positive decimal is laid out: positionally with at least one digit on either side of the point
from `10 ^ -5` up to below `10 ^ 16`, else with one digit before the point and a signed exponent. -/
def layout (digits : List Char) (power : Int) : List Char :=
  let point : Int := digits.length + power
  if 0 ≤ power ∧ point ≤ 16 then digits ++ List.replicate power.natAbs '0' ++ ['.', '0']
  else if 0 < point ∧ point ≤ 16 then
    digits.take point.natAbs ++ '.' :: digits.drop point.natAbs
  else if -5 < point ∧ point ≤ 0 then
    '0' :: '.' :: List.replicate point.natAbs '0' ++ digits
  else
    let exponent := point - 1
    let fraction := if digits.length = 1 then [] else '.' :: digits.drop 1
    let sign := if exponent < 0 then '-' else '+'
    digits.take 1 ++ fraction ++ 'e' :: sign :: Decimal.digits exponent.natAbs

/-- The shortest text that reads back as the number. -/
def chars (x : Double) : List Char :=
  let body :=
    if x.significand = 0 then ['0', '.', '0']
    else
      let (digits, power) := shortest x.significand x.exponent
      layout (Decimal.digits digits) power
  if x.negative then '-' :: body else body

/-- The shortest text that reads back as the number. -/
def text (x : Double) : String :=
  String.ofList x.chars

end Double

end CiFront
