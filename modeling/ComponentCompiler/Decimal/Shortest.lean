import ComponentCompiler.Decimal.Binary64

/-!
# The shortest decimal that reads back

A number is written with the fewest significant digits that round to it, and with the nearest
of those. A number stands for the interval of reals that round to it; the ends belong to it when
the mantissa is even. For a growing number of digits the two neighbours of the number on the
decimal grid are tried, and the first grid with a neighbour in the interval decides.
-/

namespace ComponentCompiler.Decimal

/-- The decimal `digits · 10 ^ power`. -/
structure Numeral where
  digits : Nat
  power : Int
  deriving DecidableEq, Repr

/-- The decimal exponent of the leading digit of a positive ratio. -/
def leadingPower (numerator denominator : Nat) : Int :=
  if denominator ≤ numerator then
    (Nat.toDigits 10 (numerator / denominator)).length - 1
  else
    -(search 400 1)
where
  /-- The least number of places, starting from `places`, at which the ratio shows a digit. -/
  search : Nat → Nat → Nat
    | 0, places => places
    | fuel + 1, places =>
      if denominator ≤ numerator * 10 ^ places then places else search fuel (places + 1)

/-- The reals that round to a number, in quarters of its last binary place. -/
structure Interval where
  low : Nat
  middle : Nat
  high : Nat
  closed : Bool

/-- The interval of a number: half a place on each side, a quarter below a power of two. -/
def intervalOf (x : Binary64) : Interval where
  low := if x.mantissa = 2 ^ (Binary64.precision - 1) ∧ Binary64.leastExponent < x.exponent then
      4 * x.mantissa - 1 else 4 * x.mantissa - 2
  middle := 4 * x.mantissa
  high := 4 * x.mantissa + 2
  closed := x.mantissa % 2 = 0

/-- Compares `a · 10 ^ power` with `b · 2 ^ exponent` after clearing both denominators. -/
def crossed (a : Nat) (power : Int) (b : Nat) (exponent : Int) : Nat × Nat :=
  (a * 10 ^ power.toNat * 2 ^ (-exponent).toNat, b * 2 ^ exponent.toNat * 10 ^ (-power).toNat)

/-- Whether `digits · 10 ^ power` lies in the interval. -/
def Interval.holds (i : Interval) (exponent : Int) (digits : Nat) (power : Int) : Bool :=
  let (fromLow, low) := crossed digits power i.low exponent
  let (fromHigh, high) := crossed digits power i.high exponent
  if i.closed then low ≤ fromLow && fromHigh ≤ high else low < fromLow && fromHigh < high

/-- The better of the two neighbours of a number on the grid of a power of ten. -/
def neighbour? (x : Binary64) (power : Int) : Option Nat :=
  let i := intervalOf x
  let exponent := x.exponent - 2
  let (unit, value) := crossed 1 power i.middle exponent
  let below := value / unit
  let lower := i.holds exponent below power
  let upper := i.holds exponent (below + 1) power
  match lower, upper with
  | false, false => none
  | true, false => some below
  | false, true => some (below + 1)
  | true, true =>
    let rest := 2 * (value % unit)
    if rest < unit then some below
    else if unit < rest then some (below + 1)
    else some (below + below % 2)

/-- Drops zeros at the end of the digits. -/
def Numeral.strip : Nat → Numeral → Numeral
  | 0, d => d
  | fuel + 1, d =>
    if d.digits ≠ 0 ∧ d.digits % 10 = 0 then strip fuel ⟨d.digits / 10, d.power + 1⟩ else d

/-- The shortest decimal of the absolute value of a number. -/
def shortest (x : Binary64) : Numeral :=
  if x.mantissa = 0 then
    ⟨0, 0⟩
  else
    let (numerator, denominator) := x.ratio
    let lead := leadingPower numerator denominator
    let found := (List.range 17).findSome? fun (places : Nat) =>
      let power := lead - (places : Int)
      (neighbour? x power).map fun digits => (⟨digits, power⟩ : Numeral)
    (found.getD ⟨0, 0⟩).strip 20

/-- The digits of a decimal as characters. -/
def Numeral.digitChars (d : Numeral) : List Char := Nat.toDigits 10 d.digits

/-- Positional notation: zeros fill the places up to the point, and a number without a
fraction ends in the given characters. -/
def positional (d : Numeral) (whole : List Char) : List Char :=
  let digits := d.digitChars
  if 0 ≤ d.power then
    digits ++ List.replicate d.power.toNat '0' ++ whole
  else
    let places := (-d.power).toNat
    if places < digits.length then
      digits.take (digits.length - places) ++ '.' :: digits.drop (digits.length - places)
    else
      '0' :: '.' :: List.replicate (places - digits.length) '0' ++ digits

/-- Exponent notation: one digit before the point, then a signed power of ten. -/
def scientific (d : Numeral) : List Char :=
  let exponent := d.power + d.digitChars.length - 1
  let front := match d.digitChars with
    | [] => ['0']
    | [lead] => [lead]
    | lead :: rest => lead :: '.' :: rest
  let sign := if exponent < 0 then '-' else '+'
  front ++ 'e' :: sign :: Nat.toDigits 10 exponent.natAbs

/-- The number of the leading digit decides the notation: positional from `10 ^ (-5)` up to
below `10 ^ 16`. -/
def isPositional (d : Numeral) : Bool :=
  let exponent := d.power + d.digitChars.length - 1
  decide (-5 ≤ exponent ∧ exponent < 16)

end ComponentCompiler.Decimal
