import SqlAssembly.Text.LetterData
import SqlAssembly.Text.UpperData

/-! # Letters, digits and upper-casing

* `Text.isAlphanumeric`            letters and numbers
* `Text.isLower`, `Text.isUpper`   letters of either case
* `Text.uppercase`                 characters in upper case, one by one -/

namespace SqlAssembly.Text

/-- Whether the character is a letter or a number. -/
def isAlphanumeric (c : Char) : Bool :=
  if c.toNat < 0x80 then c.isAlphanum
  else inRanges alphabeticRanges c.toNat || inRanges numericRanges c.toNat

/-- Whether the character is in lower case. -/
def isLower (c : Char) : Bool :=
  if c.toNat < 0x80 then c.isLower else inSteps lowercaseRanges c.toNat

/-- Whether the character is in upper case. -/
def isUpper (c : Char) : Bool :=
  if c.toNat < 0x80 then c.isUpper else inSteps uppercaseRanges c.toNat

/-- The upper-case form of a character, which may have up to three characters. -/
def upperChar (c : Char) : List Char :=
  if c.toNat < 0x80 then [c.toUpper]
  else
    match upperSequences.find? fun s => s.1 = c.toNat with
    | some s => s.2.map Char.ofNat
    | none => [Char.ofNat (shiftCode upperRanges c.toNat)]

/-- The characters in upper case. -/
def uppercase (cs : List Char) : List Char := cs.flatMap upperChar

end SqlAssembly.Text
