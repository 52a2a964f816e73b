import SqlAssembly.Json.Basic
import SqlAssembly.Number.Decimal

/-! # Numbers in a JSON text

An integer that 64 bits hold is read exactly.  Any other number becomes a double in two rounded
steps: its leading digits, as many as 64 bits hold, are rounded to a double, and that is multiplied
or divided by a double near the power of ten.

* `Json.absorb`      the leading digits that 64 bits hold
* `Json.scale?`      a double times a power of ten
* `Json.readNumber?` the number at the front of a text -/

namespace SqlAssembly

namespace Json

/-- The greatest number whose digits are read exactly. -/
def maxSignificand : Nat := 18446744073709551615

/-- Put digits behind `acc` while the number stays within 64 bits, and return the other digits. -/
def absorb (acc : Nat) : List Char → Nat × List Char
  | [] => (acc, [])
  | c :: cs =>
    let next := acc * 10 + (c.toNat - 48)
    if maxSignificand < next then (acc, c :: cs) else absorb next cs

/-- The greatest power of ten that one step multiplies or divides by. -/
def maxScale : Nat := 308

/-- The double nearest to a power of ten. -/
def powerOfTen (k : Nat) : Binary64 := Binary.ofDecimal .binary64 false 1 k

/-- A finite double times `10 ^ exponent`, by steps of at most `maxScale` of which `fuel` many are
    made; none beyond the range. -/
def scale? : Nat → Binary64 → Int → Option Binary64
  | 0, x, _ => some x
  | fuel + 1, x, exponent =>
    if x.isZero then some x
    else if exponent.natAbs ≤ maxScale then
      -- One step is left, which rounds once more.
      let y := if 0 ≤ exponent then x.mulFinite (powerOfTen exponent.toNat)
        else x.divFinite (powerOfTen exponent.natAbs)
      if y.isFinite then some y else none
    else if 0 ≤ exponent then none
    else scale? fuel (x.divFinite (powerOfTen maxScale)) (exponent + maxScale)

/-- Enough steps of scaling to bring any double to nought. -/
def scaleSteps : Nat := 4

/-- The double with these leading digits and this power of ten. -/
def realOf? (negative : Bool) (significand : Nat) (exponent : Int) : Option Json :=
  (scale? scaleSteps (Binary.ofInt .binary64 significand) exponent).map fun x =>
    real (if negative then x.neg else x)

/-- The integer with this magnitude: a double where 64 bits do not hold it, and for minus
    nought. -/
def integerOf (negative : Bool) (magnitude : Nat) : Json :=
  let n : Int := if negative then -(magnitude : Int) else magnitude
  if negative ∧ magnitude = 0 then real (Binary.zero .binary64 true)
  else if h : -9223372036854775808 ≤ n ∧ n ≤ 18446744073709551615 then integer ⟨n, h.1, h.2⟩
  else real (Binary.ofInt .binary64 n)

/-- The exponent behind an exponent mark, and what follows it. -/
def readExponent? (cs : List Char) : Option (Int × List Char) :=
  let (negative, ds) :=
    match cs with
    | '-' :: r => (true, r)
    | '+' :: r => (false, r)
    | r => (false, r)
  let digits := ds.takeWhile Numeral.isDigit
  if digits.isEmpty then none
  else
    let n : Int := Numeral.decimalValue digits
    some (if negative then -n else n, ds.dropWhile Numeral.isDigit)

/-- The digits in front of the point: a nought alone or a run of digits that starts with none. -/
def wholeDigits? (cs : List Char) : Option (List Char × List Char) :=
  match cs.takeWhile Numeral.isDigit, cs.dropWhile Numeral.isDigit with
  | [], _ => none
  | ['0'], rest => some (['0'], rest)
  | '0' :: _, _ => none
  | digits, rest => some (digits, rest)

/-- What follows the digits in front of the point: perhaps a point with digits, perhaps an
    exponent. -/
def readTail? (cs : List Char) : Option (Option (List Char) × Option Int × List Char) := do
  let (fraction, afterFraction) ←
    match cs with
    | '.' :: r =>
      let digits := r.takeWhile Numeral.isDigit
      if digits.isEmpty then none else some (some digits, r.dropWhile Numeral.isDigit)
    | r => some (none, r)
  match afterFraction with
  | c :: r =>
    if c = 'e' ∨ c = 'E' then
      let (exponent, rest) ← readExponent? r
      some (fraction, some exponent, rest)
    else some (fraction, none, c :: r)
  | [] => some (fraction, none, [])

/-- The number at the front of a text, and what follows it. -/
def readNumber? (cs : List Char) : Option (Json × List Char) := do
  let (negative, unsigned) :=
    match cs with
    | '-' :: r => (true, r)
    | r => (false, r)
  let (whole, afterWhole) ← wholeDigits? unsigned
  let (fraction?, exponent?, rest) ← readTail? afterWhole
  -- A digit that the whole part drops counts as a power of ten.
  let (kept, dropped) := absorb 0 whole
  match fraction?, exponent?, dropped with
  | none, none, [] => some (integerOf negative kept, rest)
  | _, _, _ =>
    -- The fraction is offered even after a dropped digit: a smaller digit may still fit.
    let fraction := fraction?.getD []
    let (significand, unused) := absorb kept fraction
    let places : Int := (fraction.length : Int) - unused.length
    let number ← realOf? negative significand (exponent?.getD 0 + dropped.length - places)
    some (number, rest)

end Json

end SqlAssembly
