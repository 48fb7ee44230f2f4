import Keychart.Number.Binary
import Keychart.Text.Basic

/-!
# The shortest decimal of a binary number

A number with 53 binary places is written with the fewest decimal digits that
read back as the same number, and of those the nearest.  All comparisons are
made on exact fractions of natural numbers.
-/

namespace Keychart.Number

/-- A decimal number: its digits and the power of ten of the last of them. -/
structure Decimal where
  digits : Nat
  exponent : Int
deriving DecidableEq, Repr

/-- The fractions that read back as one number, over a common denominator.  The
ends belong to them when the mantissa is even. -/
structure Interval where
  low : Nat
  value : Nat
  high : Nat
  denominator : Nat
  closed : Bool

namespace Interval

/-- The interval of `n` divided by a power of two, where `n` has at most 53
binary places.  Below a power of two the neighbours are twice as close. -/
def ofDyadic (n scale : Nat) : Interval :=
  let shift := precision - (n.log2 + 1)
  let unit := twoPow (n.log2 + 1 - precision)
  let mantissa := n * twoPow shift / unit
  { low := 4 * n * twoPow shift - (if mantissa = twoPow (precision - 1) then unit else 2 * unit)
    value := 4 * n * twoPow shift
    high := 4 * n * twoPow shift + 2 * unit
    denominator := 4 * twoPow shift * twoPow scale
    closed := mantissa % 2 = 0 }

def holds (i : Interval) (numerator denominator : Nat) : Bool :=
  let x := numerator * i.denominator
  let low := i.low * denominator
  let high := i.high * denominator
  if i.closed then low ≤ x && x ≤ high else low < x && x < high

end Interval

def Decimal.ratio (d : Decimal) : Nat × Nat :=
  if 0 ≤ d.exponent then (d.digits * tenPow d.exponent.toNat, 1)
  else (d.digits, tenPow (-d.exponent).toNat)

/-- The decimal point of a positive fraction: the least power of ten above it. -/
def decimalPoint (numerator denominator : Nat) : Int :=
  if denominator ≤ numerator then (Nat.toDigits 10 (numerator / denominator)).length
  else 1 - (Nat.toDigits 10 ((denominator + numerator - 1) / numerator - 1)).length

/-- The decimal with its last place at the given power of ten that reads back,
if there is one: of the two neighbours of the value the nearer. -/
def onGrid? (i : Interval) (exponent : Int) : Option Decimal :=
  let scaledNumerator := if 0 ≤ exponent then i.value else i.value * tenPow (-exponent).toNat
  let scaledDenominator :=
    if 0 ≤ exponent then i.denominator * tenPow exponent.toNat else i.denominator
  let below := scaledNumerator / scaledDenominator
  let nearer := divNearestEven scaledNumerator scaledDenominator
  let farther := if nearer = below then below + 1 else below
  ([nearer, farther].map fun digits => (⟨digits, exponent⟩ : Decimal)).find? fun d =>
    i.holds d.ratio.1 d.ratio.2

/-- The first grid with a decimal that reads back, from coarse to fine. -/
def firstGrid (i : Interval) (exponent : Int) : (tries : Nat) → Decimal
  | 0 => ⟨i.value / i.denominator, 0⟩
  | tries + 1 =>
    match onGrid? i exponent with
    | some d => d
    | none => firstGrid i (exponent - 1) tries

/-- The shortest decimal of `n` divided by a power of two, where `n` is positive
and has at most 53 binary places.  Seventeen digits always suffice. -/
def shortest (n scale : Nat) : Decimal :=
  let i := Interval.ofDyadic n scale
  firstGrid i (decimalPoint i.value i.denominator - 1) 18

/-- A decimal written out.  From 10 ^ -4 up to 10 ^ 16 all places are written,
with at least one on each side of the point; beyond, one digit stands in front
of the point and an exponent of at least two digits behind. -/
def Decimal.write (d : Decimal) : Text :=
  let digits := Text.trimBack (· = '0') (Text.ofNat d.digits)
  let point : Int := (Text.ofNat d.digits).length + d.exponent
  if -4 < point && point ≤ 16 then
    if point ≤ 0 then
      '0' :: '.' :: List.replicate (-point).toNat '0' ++ digits
    else
      let front := digits.take point.toNat
      let back := digits.drop point.toNat
      front ++ List.replicate (point.toNat - front.length) '0' ++
        '.' :: (if back.isEmpty then ['0'] else back)
  else
    let mantissa :=
      match digits with
      | [] => ['0']
      | [digit] => [digit]
      | digit :: rest => digit :: '.' :: rest
    let exponent := point - 1
    let places := Text.ofNat exponent.natAbs
    mantissa ++ ['e', if exponent < 0 then '-' else '+'] ++
      (if places.length < 2 then '0' :: places else places)

end Keychart.Number
