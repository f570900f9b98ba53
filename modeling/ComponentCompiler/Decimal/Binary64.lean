import ComponentCompiler.Arithmetic

/-!
# Binary floating-point numbers

Finite double-precision numbers as a sign, a mantissa and a power of two, with rounding to the
nearest number and ties to the even mantissa. All arithmetic is exact on ratios of naturals and
rounded once.
-/

namespace ComponentCompiler

/-- The number `±mantissa · 2 ^ exponent`. Results of rounding are normal: the mantissa is below
`2 ^ 53` and, unless the exponent is the least one, at least `2 ^ 52`. -/
structure Binary64 where
  negative : Bool
  mantissa : Nat
  exponent : Int
  deriving DecidableEq, Repr, Inhabited

namespace Binary64

/-- The exponent of the smallest positive number. -/
def leastExponent : Int := -1074

/-- The exponent of the numbers in the topmost binade. -/
def greatestExponent : Int := 971

/-- The number of bits of a mantissa. -/
def precision : Nat := 53

def zero (negative : Bool) : Binary64 := ⟨negative, 0, leastExponent⟩

/-- The ratio `numerator / denominator`, divided by `2 ^ exponent`. -/
def scaled (numerator denominator : Nat) (exponent : Int) : Nat × Nat :=
  if 0 ≤ exponent then
    (numerator, denominator * 2 ^ exponent.toNat)
  else
    (numerator * 2 ^ (-exponent).toNat, denominator)

/-- The natural number nearest to a ratio; a half goes to the even neighbour. -/
def nearest (numerator denominator : Nat) : Nat :=
  let quotient := numerator / denominator
  let rest := numerator % denominator
  if 2 * rest < denominator then quotient
  else if denominator < 2 * rest then quotient + 1
  else quotient + quotient % 2

/-- The exponent at which a positive ratio has a mantissa of full precision, or the least one. -/
def exponentOf (numerator denominator : Nat) : Int :=
  let guess : Int := numerator.log2 - denominator.log2 - precision
  let (top, bottom) := scaled numerator denominator guess
  let exact := if top / bottom < 2 ^ precision then guess else guess + 1
  max exact leastExponent

/-- The number nearest to a ratio, if it is not beyond the greatest one. -/
def ofRatio? (negative : Bool) (numerator denominator : Nat) : Option Binary64 :=
  if numerator = 0 then
    some (zero negative)
  else
    let exponent := exponentOf numerator denominator
    let (top, bottom) := scaled numerator denominator exponent
    let mantissa := nearest top bottom
    let (mantissa, exponent) :=
      if mantissa = 2 ^ precision then (2 ^ (precision - 1), exponent + 1)
      else (mantissa, exponent)
    if exponent ≤ greatestExponent then some ⟨negative, mantissa, exponent⟩ else none

/-- The absolute value as a ratio. -/
def ratio (x : Binary64) : Nat × Nat := scaled x.mantissa 1 (-x.exponent)

/-- The number nearest to `±digits · 10 ^ power`. Powers far outside the range are settled by
the number of digits alone. -/
def ofDecimal? (negative : Bool) (digits : Nat) (power : Int) : Option Binary64 :=
  let top := power + (Nat.toDigits 10 digits).length
  if digits = 0 ∨ top < -400 then some (zero negative)
  else if 400 < top then none
  else if 0 ≤ power then ofRatio? negative (digits * 10 ^ power.toNat) 1
  else ofRatio? negative digits (10 ^ (-power).toNat)

/-- Equality of numbers: the two zeros are equal. -/
def same (x y : Binary64) : Bool := x == y || (x.mantissa == 0 && y.mantissa == 0)

/-- The sum of two numbers without regard to their signs, rounded. -/
def sum? (x y : Binary64) : Option Binary64 :=
  let (a, b) := x.ratio
  let (c, d) := y.ratio
  ofRatio? false (a * d + c * b) (b * d)

/-- The product with a natural number, rounded. -/
def times? (x : Binary64) (factor : Nat) : Option Binary64 :=
  let (a, b) := x.ratio
  ofRatio? x.negative (a * factor) b

end Binary64
end ComponentCompiler
