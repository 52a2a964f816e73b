import SqlAssembly.Number.Numeral
import SqlAssembly.Number.Binary

/-! # Shortest decimal digits

The shortest digits of a finite binary number are the fewest decimal digits that read back as it,
and among those the ones nearest to it.  They are found by trying the grids of one digit, two
digits and so on: the number lies between two neighbours of the grid, and the first grid with a
neighbour inside the interval of the reals that round to the number is the one.

* `Interval`              the reals that round to a number
* `Decimal`               digits and the power of ten of the last one
* `Binary.shortest`       the shortest digits of a number -/

namespace SqlAssembly

/-- Which of two equally near digits to take. -/
inductive TieRule where
  | even
  | up
deriving DecidableEq, Repr

/-- The decimal number `digits * 10 ^ exponent`. -/
structure Decimal where
  digits : Nat
  exponent : Int
deriving DecidableEq, Repr

/-- A number and the reals that round to it, as numerators over one denominator.  The ends belong
    to the interval if `closed` is set. -/
structure Interval where
  value : Nat
  low : Nat
  high : Nat
  den : Nat
  closed : Bool

namespace Interval

/-- The reals that round to the number of format `fmt` with this mantissa and exponent.  The gap
    below the least mantissa of full precision is half the gap above it. -/
def around (fmt : BinaryFormat) (mantissa : Nat) (exponent : Int) : Interval :=
  let (unit, den) := Binary.ratio 1 exponent
  -- All three numerators count quarters of a unit, so that half of the smaller gap is one of them.
  let gapBelow :=
    if mantissa = Nat.pow 2 (fmt.precision - 1) ∧ fmt.minExponent < exponent then 1 else 2
  { value := 4 * mantissa * unit
    low := (4 * mantissa - gapBelow) * unit
    high := (4 * mantissa + 2) * unit
    den := 4 * den
    closed := mantissa % 2 = 0 }

/-- Whether the ratio `num / den` lies in the interval. -/
def contains (i : Interval) (num den : Nat) : Bool :=
  let n := num * i.den
  if i.closed then i.low * den ≤ n && n ≤ i.high * den
  else i.low * den < n && n < i.high * den

end Interval

/-- The power of ten just above the ratio: the least `x` with `num / den < 10 ^ x`. -/
def decimalPoint (num den : Nat) : Int :=
  if den ≤ num then (Numeral.decimal (num / den)).length
  else
    -- `den / num` has `t` digits, so the ratio lies above `10 ^ -t` and is at most `10 ^ (1 - t)`;
    -- at that end the answer is one greater.
    let t := (Numeral.decimal (den / num)).length
    let j := if den ≤ num * Nat.pow 10 (t - 1) then t - 1 else t
    1 - (j : Int)

namespace Decimal

/-- The decimal number as a ratio of natural numbers. -/
def ratio (d : Decimal) : Nat × Nat :=
  if 0 ≤ d.exponent then (d.digits * Nat.pow 10 d.exponent.toNat, 1)
  else (d.digits, Nat.pow 10 (-d.exponent).toNat)

/-- Drop up to `fuel` noughts at the end of the digits. -/
def dropNoughts : Nat → Decimal → Decimal
  | 0, d => d
  | fuel + 1, d =>
    if d.digits ≠ 0 ∧ d.digits % 10 = 0 then
      dropNoughts fuel ⟨d.digits / 10, d.exponent + 1⟩
    else d

end Decimal

/-- The neighbour of the interval's number on the grid of multiples of `10 ^ exponent` that lies
    in the interval; of two such the nearer one, and of two equally near the one `tie` says. -/
def Interval.onGrid? (i : Interval) (tie : TieRule) (exponent : Int) : Option Decimal :=
  let (num, den) :=
    if 0 ≤ exponent then (i.value, i.den * Nat.pow 10 exponent.toNat)
    else (i.value * Nat.pow 10 (-exponent).toNat, i.den)
  let below : Decimal := ⟨num / den, exponent⟩
  let above : Decimal := ⟨num / den + 1, exponent⟩
  let rest := num % den
  -- `below` is the number itself where the division leaves no rest.
  let inside (d : Decimal) : Bool := i.contains d.ratio.1 d.ratio.2
  match inside below, inside above with
  | true, true =>
    let upper : Bool :=
      den < 2 * rest ||
        (2 * rest = den &&
          match tie with
          | .up => true
          | .even => below.digits % 2 = 1)
    some (if upper then above else below)
  | true, false => some below
  | false, true => some above
  | false, false => none

/-- The first hit on the grids whose last digit has the power of ten `exponent`, `exponent - 1`
    and so on, of which `fuel` many are tried. -/
def Interval.firstHit? (i : Interval) (tie : TieRule) : Nat → Int → Option Decimal
  | 0, _ => none
  | fuel + 1, exponent =>
    match i.onGrid? tie exponent with
    | some d => some d
    | none => i.firstHit? tie fuel (exponent - 1)

/-- More digits than any supported format needs to tell its numbers apart. -/
def maxDigits : Nat := 20

/-- The shortest digits of a number with this mantissa and exponent, without noughts at the
    end. -/
def BinaryFormat.shortest (fmt : BinaryFormat) (tie : TieRule) (mantissa : Nat)
    (exponent : Int) : Decimal :=
  if mantissa = 0 then ⟨0, 0⟩
  else
    let i := Interval.around fmt mantissa exponent
    let hit := i.firstHit? tie maxDigits (decimalPoint i.value i.den - 1)
    Decimal.dropNoughts maxDigits (hit.getD ⟨0, 0⟩)

end SqlAssembly
