import SqlAssembly.Number.Shortest

/-! # Laying out decimal digits

A layout says how the shortest digits of a binary number are written: which decimal exponents are
written positionally and which in scientific notation, what marks a whole number, and which of
two equally near digits is taken.

* `FloatLayout.plain`        always positional, nothing behind a whole number
* `FloatLayout.json64`       positional for exponents from -5 to 15, with a point always
* `FloatLayout.json32`       the same from -6 to 12
* `FloatLayout.render`       the text of a number -/

namespace SqlAssembly

/-- How the digits of a number are laid out. -/
structure FloatLayout where
  /-- The decimal exponents written positionally; none stands for all of them. -/
  positional : Option (Int × Int)
  /-- What follows the digits of a whole number written positionally. -/
  wholeSuffix : String
  /-- Which of two equally near digits is taken. -/
  tie : TieRule
deriving DecidableEq, Repr

namespace FloatLayout

/-- Positional at any size, and nothing behind a whole number. -/
def plain : FloatLayout := ⟨none, "", .up⟩

/-- Double precision in a JSON text. -/
def json64 : FloatLayout := ⟨some (-5, 15), ".0", .even⟩

/-- Single precision in a JSON text. -/
def json32 : FloatLayout := ⟨some (-6, 12), ".0", .even⟩

/-- The digits with the point where the exponent puts it. -/
def positionalText (l : FloatLayout) (d : Decimal) : List Char :=
  let ds := Numeral.decimal d.digits
  if 0 ≤ d.exponent then
    ds ++ List.replicate d.exponent.toNat '0' ++ l.wholeSuffix.toList
  else
    let places := (-d.exponent).toNat
    if places < ds.length then
      ds.take (ds.length - places) ++ '.' :: ds.drop (ds.length - places)
    else '0' :: '.' :: List.replicate (places - ds.length) '0' ++ ds

/-- One digit before the point, then the exponent with its sign. -/
def scientificText (d : Decimal) (exponent : Int) : List Char :=
  let mantissa :=
    match Numeral.decimal d.digits with
    | [] => []
    | [c] => [c]
    | c :: cs => c :: '.' :: cs
  let sign := if exponent < 0 then '-' else '+'
  mantissa ++ 'e' :: sign :: Numeral.decimal exponent.natAbs

/-- The digits in the notation that the layout chooses for them. -/
def digitsText (l : FloatLayout) (d : Decimal) : List Char :=
  let exponent : Int := (Numeral.decimal d.digits).length - 1 + d.exponent
  match l.positional with
  | none => l.positionalText d
  | some (low, high) =>
    if d.digits = 0 ∨ (low ≤ exponent ∧ exponent ≤ high) then l.positionalText d
    else scientificText d exponent

/-- The text of a number: `NaN`, `inf` with a sign, or a sign and the shortest digits. -/
def render (l : FloatLayout) {fmt : BinaryFormat} : Binary fmt → String
  | .nan => "NaN"
  | .infinite negative => if negative then "-inf" else "inf"
  | .finite negative m e _ =>
    let text := l.digitsText (fmt.shortest l.tie m e)
    String.ofList (if negative then '-' :: text else text)

end FloatLayout

end SqlAssembly
