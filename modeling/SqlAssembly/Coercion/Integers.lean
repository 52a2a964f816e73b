import SqlAssembly.Number.Numeral
import SqlAssembly.Text.Blank
import SqlAssembly.Text.Split

/-! # Integers from texts

* `readRadix64?`, `readRadix32?`   a numeral in a radix from 2 to 36
* `splitInts?`                     the integers between separators
* `narrow`                         the nearest integer of a width -/

namespace SqlAssembly

/-- The text without the first of the marks that it starts with. -/
def dropMark (marks : List (List Char)) (cs : List Char) : List Char :=
  match marks.find? (·.isPrefixOf cs) with
  | some mark => cs.drop mark.length
  | none => cs

/-- The marks that may stand in front of the digits in a radix. -/
def radixMarks (radix : Nat) : List (List Char) :=
  if radix = 16 then [['0', 'x'], ['0', 'X']]
  else if radix = 2 then [['0', 'b'], ['0', 'B']]
  else []

/-- The integer of 64 bits that a numeral in `radix` spells: perhaps `-`, perhaps the mark of the
    radix, then an integer with a sign of its own.  Blanks at the ends do not count. -/
def readRadix64? (s : String) (radix : Nat) : Option IntWidth.int64.Carrier :=
  if 2 ≤ radix ∧ radix ≤ 36 then
    let (negative, unsigned) :=
      match Text.trimChars s.toList with
      | '-' :: rest => (true, rest)
      | rest => (false, rest)
    -- The least integer has no opposite; wrapping gives it back.
    (IntWidth.int64.read? radix (dropMark (radixMarks radix) unsigned)).map fun n =>
      if negative then IntWidth.int64.wrap (-n.val) else n
  else none

/-- The same integer, if 32 bits hold it. -/
def readRadix32? (s : String) (radix : Nat) : Option IntWidth.int32.Carrier :=
  (readRadix64? s radix).bind fun n => IntWidth.int32.ofInt? n.val

/-- The integers of 32 bits between the separators, which are applied one after the other; empty
    pieces do not count, and neither do empty separators or blanks around a piece. -/
def splitInts? (s : String) (separators : List String) : Option (List IntWidth.int32.Carrier) :=
  let pieces := (separators.filter (· ≠ "")).foldl
    (fun pieces sep => pieces.flatMap (Text.splitOn sep)) [s]
  (pieces.filter (· ≠ "")).mapM fun p => IntWidth.int32.read? 10 (Text.trimChars p.toList)

/-- The integer of width `w` nearest to `n`. -/
def narrow (w : IntWidth) (n : Int) : Int := (w.clamp n).val

end SqlAssembly
