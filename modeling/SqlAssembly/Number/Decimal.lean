import SqlAssembly.Number.Numeral
import SqlAssembly.Number.Binary

/-! # Decimal text of a binary number

* `Binary.ofDecimal`  the binary number nearest to `digits * 10 ^ exponent`
* `Binary.read?`      the binary number nearest to a decimal text, or the infinity or
                      not-a-number that the text names -/

namespace SqlAssembly

namespace Binary

/-- Beyond this power of ten no supported format has a finite number, and below its inverse none
    has one other than nought. -/
def decimalRange : Int := 400

/-- The number nearest to `digits * 10 ^ exponent`. -/
def ofDecimal (fmt : BinaryFormat) (negative : Bool) (digits : Nat) (exponent : Int) :
    Binary fmt :=
  -- A power of ten far out of the range is never computed.
  let magnitude := (Numeral.decimal digits).length + exponent
  if digits = 0 ∨ magnitude < -decimalRange then zero fmt negative
  else if decimalRange < magnitude then infinite negative
  else if 0 ≤ exponent then ofRatio fmt negative (digits * Nat.pow 10 exponent.toNat) 1
  else ofRatio fmt negative digits (Nat.pow 10 (-exponent).toNat)

/-- The exponent behind an exponent mark: an optional sign and at least one digit. -/
def readExponent? (cs : List Char) : Option Int := Numeral.readInt? 10 true cs

/-- The number with the unsigned decimal text `cs`: digits with at most one point among or around
    them, then perhaps `e` or `E` and an exponent. -/
def readUnsigned? (fmt : BinaryFormat) (negative : Bool) (cs : List Char) :
    Option (Binary fmt) :=
  let whole := cs.takeWhile Numeral.isDigit
  let afterWhole := cs.dropWhile Numeral.isDigit
  let (fraction, rest) :=
    match afterWhole with
    | '.' :: r => (r.takeWhile Numeral.isDigit, r.dropWhile Numeral.isDigit)
    | r => ([], r)
  let digits := whole ++ fraction
  let number (exponent : Int) : Binary fmt :=
    ofDecimal fmt negative (Numeral.decimalValue digits) (exponent - fraction.length)
  if digits.isEmpty then none
  else
    match rest with
    | [] => some (number 0)
    | c :: r => if c = 'e' ∨ c = 'E' then (readExponent? r).map number else none

/-- Whether the two texts are equal but for the case of ASCII letters. -/
def namedBy (name : String) (cs : List Char) : Bool := cs.map Char.toLower = name.toList

/-- The number that the text `cs` stands for: an optional sign, then a decimal number or one of
    the words `inf`, `infinity` and `nan` in letters of either case. -/
def read? (fmt : BinaryFormat) (cs : List Char) : Option (Binary fmt) :=
  let (negative, rest) :=
    match cs with
    | '-' :: r => (true, r)
    | '+' :: r => (false, r)
    | r => (false, r)
  if namedBy "inf" rest || namedBy "infinity" rest then some (infinite negative)
  else if namedBy "nan" rest then some nan
  else readUnsigned? fmt negative rest

end Binary

end SqlAssembly
