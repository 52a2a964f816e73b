import SqlAssembly.Number.Width

/-! # Numerals in a radix

Reading and writing whole numbers with digits `0`–`9` and then letters.

* `Numeral.digitValue?`  what a digit is worth, letters of either case
* `Numeral.read?`        the value of a non-empty run of digits
* `Numeral.text`         the digits of a natural number, letters in lower case
* `IntWidth.read?`       a number of a width, with an optional sign -/

namespace SqlAssembly

namespace Numeral

/-- What the ASCII digit or letter `c` is worth, if that is below `radix`. -/
def digitValue? (radix : Nat) (c : Char) : Option Nat :=
  let n := c.toNat
  let value? :=
    if 48 ≤ n ∧ n ≤ 57 then some (n - 48)
    else if 97 ≤ n ∧ n ≤ 122 then some (n - 87)
    else if 65 ≤ n ∧ n ≤ 90 then some (n - 55)
    else none
  value?.filter (· < radix)

/-- Whether `c` is an ASCII decimal digit. -/
def isDigit (c : Char) : Bool := 48 ≤ c.toNat && c.toNat ≤ 57

/-- The digit worth `d`, a lower-case letter from ten on. -/
def digitChar (d : Nat) : Char :=
  if d < 10 then Char.ofNat (48 + d) else Char.ofNat (87 + d)

/-- The value of the digits `cs` behind digits worth `acc`, or none at the first character that
    is no digit. -/
def readFrom? (radix : Nat) (acc : Nat) : List Char → Option Nat
  | [] => some acc
  | c :: cs => (digitValue? radix c).bind fun d => readFrom? radix (acc * radix + d) cs

/-- The value of a run of digits, of which there must be one at least. -/
def read? (radix : Nat) (cs : List Char) : Option Nat :=
  if cs.isEmpty then none else readFrom? radix 0 cs

/-- The value of the decimal digits `cs`; anything else counts as nought. -/
def decimalValue (cs : List Char) : Nat :=
  cs.foldl (fun acc c => acc * 10 + (c.toNat - 48)) 0

/-- The digits of `n`, the most significant one first. -/
def text (radix n : Nat) : List Char :=
  if _ : n < radix ∨ radix < 2 then [digitChar n]
  else text radix (n / radix) ++ [digitChar (n % radix)]
termination_by n
decreasing_by exact Nat.div_lt_self (by omega) (by omega)

/-- The decimal text of `n`. -/
def decimal (n : Nat) : List Char := text 10 n

/-- The decimal text of an integer, with `-` in front of a negative one. -/
def decimalInt (n : Int) : List Char :=
  if n < 0 then '-' :: decimal n.natAbs else decimal n.natAbs

/-- `n` in decimal, filled up with noughts on the left to `width` digits. -/
def padded (width n : Nat) : List Char :=
  let ds := decimal n
  List.replicate (width - ds.length) '0' ++ ds

/-- An integer with an optional sign; `-` is a sign only where `signed` allows it. -/
def readInt? (radix : Nat) (signed : Bool) : List Char → Option Int
  | '+' :: cs => (read? radix cs).map (·)
  | '-' :: cs => if signed then (read? radix cs).map (fun n => -(n : Int)) else none
  | cs => (read? radix cs).map (·)

end Numeral

/-- A number of width `w` written in `radix`; none if the text is no numeral or the width does
    not hold the number. -/
def IntWidth.read? (w : IntWidth) (radix : Nat) (cs : List Char) : Option w.Carrier :=
  (Numeral.readInt? radix w.signed cs).bind w.ofInt?

end SqlAssembly
