/-! # Binary floating point numbers

A number of a binary format is a sign, a mantissa and an exponent, an infinity or not a number.
All arithmetic here is exact arithmetic on natural numbers followed by one rounding.

* `BinaryFormat`            precision and exponent range; `binary32` and `binary64`
* `Binary fmt`              the numbers of a format, each in its canonical form
* `Binary.ofRatio`          the number nearest to a ratio, ties to the even mantissa
* `Binary.convert`          the nearest number of another format
* `Binary.toInt?`           the nearest integer, ties to the even one -/

namespace SqlAssembly

/-- A binary format: finite numbers are `mantissa * 2 ^ exponent` with a mantissa below
    `2 ^ precision` and an exponent between the two bounds. -/
structure BinaryFormat where
  precision : Nat
  minExponent : Int
  maxExponent : Int
deriving DecidableEq

namespace BinaryFormat

/-- Single precision. -/
def binary32 : BinaryFormat := ⟨24, -149, 104⟩

/-- Double precision. -/
def binary64 : BinaryFormat := ⟨53, -1074, 971⟩

/-- A mantissa and an exponent in the form that each number has only one of: the leading bit is
    set unless the exponent is the least one. -/
def Canonical (fmt : BinaryFormat) (mantissa : Nat) (exponent : Int) : Prop :=
  mantissa < Nat.pow 2 fmt.precision ∧
    fmt.minExponent ≤ exponent ∧ exponent ≤ fmt.maxExponent ∧
    (Nat.pow 2 (fmt.precision - 1) ≤ mantissa ∨ exponent = fmt.minExponent)

instance (fmt : BinaryFormat) (m : Nat) (e : Int) : Decidable (fmt.Canonical m e) :=
  inferInstanceAs (Decidable (_ ∧ _))

end BinaryFormat

/-- The numbers of a binary format. -/
inductive Binary (fmt : BinaryFormat) where
  | nan
  | infinite (negative : Bool)
  | finite (negative : Bool) (mantissa : Nat) (exponent : Int)
      (canonical : fmt.Canonical mantissa exponent)
deriving DecidableEq

/-- Single precision numbers. -/
abbrev Binary32 : Type := Binary BinaryFormat.binary32

/-- Double precision numbers. -/
abbrev Binary64 : Type := Binary BinaryFormat.binary64

/-- The quotient rounded to the nearest natural number, a tie going to the even one. -/
def roundHalfEven (num den : Nat) : Nat :=
  let q := num / den
  let r := num % den
  if 2 * r < den then q else if den < 2 * r then q + 1 else q + q % 2

namespace Binary

/-- The number with this mantissa and exponent if they are canonical, else an infinity. -/
def ofParts (fmt : BinaryFormat) (negative : Bool) (mantissa : Nat) (exponent : Int) :
    Binary fmt :=
  if h : fmt.Canonical mantissa exponent then finite negative mantissa exponent h
  else infinite negative

/-- Nought with a sign. -/
def zero (fmt : BinaryFormat) (negative : Bool) : Binary fmt :=
  ofParts fmt negative 0 fmt.minExponent

/-- The finite number of greatest magnitude. -/
def largest (fmt : BinaryFormat) (negative : Bool) : Binary fmt :=
  ofParts fmt negative (Nat.pow 2 fmt.precision - 1) fmt.maxExponent

/-- `num / den` in units of `2 ^ exponent`, as a ratio of natural numbers. -/
def scaled (num den : Nat) (exponent : Int) : Nat × Nat :=
  if 0 ≤ exponent then (num, den * Nat.pow 2 exponent.toNat)
  else (num * Nat.pow 2 (-exponent).toNat, den)

/-- The exponent whose unit divides `num / den` into a mantissa of full precision, or the least
    exponent if that is greater. -/
def unitExponent (fmt : BinaryFormat) (num den : Nat) : Int :=
  -- Divided by this unit the ratio has `precision` bits in front of the point, or one more.
  let guess := (num.log2 : Int) - den.log2 - fmt.precision
  let (a, b) := scaled num den guess
  max fmt.minExponent (if a / b < Nat.pow 2 fmt.precision then guess else guess + 1)

/-- The number nearest to `num / den`, with a tie going to the even mantissa and infinity beyond
    the range. -/
def ofRatio (fmt : BinaryFormat) (negative : Bool) (num den : Nat) : Binary fmt :=
  if num = 0 then zero fmt negative
  else
    let e := unitExponent fmt num den
    let (a, b) := scaled num den e
    let m := roundHalfEven a b
    -- Rounding up may carry into one bit more.
    if m = Nat.pow 2 fmt.precision then ofParts fmt negative (Nat.pow 2 (fmt.precision - 1)) (e + 1)
    else ofParts fmt negative m e

/-- The magnitude of a mantissa and an exponent as a ratio of natural numbers. -/
def ratio (mantissa : Nat) (exponent : Int) : Nat × Nat :=
  if 0 ≤ exponent then (mantissa * Nat.pow 2 exponent.toNat, 1)
  else (mantissa, Nat.pow 2 (-exponent).toNat)

/-- The number nearest to an integer. -/
def ofInt (fmt : BinaryFormat) (n : Int) : Binary fmt := ofRatio fmt (n < 0) n.natAbs 1

/-- The nearest number of the format `target`. -/
def convert {fmt : BinaryFormat} (target : BinaryFormat) : Binary fmt → Binary target
  | nan => nan
  | infinite negative => infinite negative
  | finite negative m e _ =>
    let (num, den) := ratio m e
    ofRatio target negative num den

/-- Replace an infinity by the largest finite number of its sign. -/
def saturate {fmt : BinaryFormat} : Binary fmt → Binary fmt
  | infinite negative => largest fmt negative
  | x => x

/-- Whether this is not a number. -/
def isNaN {fmt : BinaryFormat} : Binary fmt → Bool
  | nan => true
  | _ => false

/-- Whether this is a finite number. -/
def isFinite {fmt : BinaryFormat} : Binary fmt → Bool
  | finite .. => true
  | _ => false

/-- Whether this is nought of either sign. -/
def isZero {fmt : BinaryFormat} : Binary fmt → Bool
  | finite _ m _ _ => m = 0
  | _ => false

/-- The number with the opposite sign. -/
def neg {fmt : BinaryFormat} : Binary fmt → Binary fmt
  | nan => nan
  | infinite negative => infinite !negative
  | finite negative m e h => finite (!negative) m e h

/-- The product of two finite numbers. -/
def mulFinite {fmt : BinaryFormat} : Binary fmt → Binary fmt → Binary fmt
  | finite s m e _, finite t n f _ =>
    ofRatio fmt (s != t) ((ratio m e).1 * (ratio n f).1) ((ratio m e).2 * (ratio n f).2)
  | _, _ => nan

/-- The quotient of a finite number and a finite number other than nought. -/
def divFinite {fmt : BinaryFormat} : Binary fmt → Binary fmt → Binary fmt
  | finite s m e _, finite t n f _ =>
    ofRatio fmt (s != t) ((ratio m e).1 * (ratio n f).2) ((ratio m e).2 * (ratio n f).1)
  | _, _ => nan

/-- The nearest integer between `lo` and `hi`, a tie going to the even one.  An infinity gives
    the bound on its side; what is not a number gives none. -/
def toInt? {fmt : BinaryFormat} (lo hi : Int) : Binary fmt → Option Int
  | nan => none
  | infinite negative => some (if negative then lo else hi)
  | finite negative m e _ =>
    let (num, den) := ratio m e
    let n := roundHalfEven num den
    some (max lo (min (if negative then -(n : Int) else n) hi))

end Binary

end SqlAssembly
