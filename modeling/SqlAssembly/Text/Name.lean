import SqlAssembly.Text.NameData
import SqlAssembly.Text.Ranges

/-! # Characters of names

The names of a declaration start with a letter of any script or the low line, and go on with those,
marks, digits and connectors.

* `Text.isNameStart`      whether a name may start with a character
* `Text.isNameContinue`   whether a name may go on with it -/

namespace SqlAssembly.Text

/-- Whether a name may start with the character. -/
def isNameStart (c : Char) : Bool :=
  if c.toNat < 0x80 then c.isAlpha || c = '_' else inRanges nameStartRanges c.toNat

/-- Whether a name may go on with the character. -/
def isNameContinue (c : Char) : Bool :=
  if c.toNat < 0x80 then c.isAlphanum || c = '_'
  else inRanges nameStartRanges c.toNat || inRanges nameExtendRanges c.toNat

/-- Whether the characters are a name. -/
def isName : List Char → Bool
  | [] => false
  | c :: cs => isNameStart c && cs.all isNameContinue

end SqlAssembly.Text
