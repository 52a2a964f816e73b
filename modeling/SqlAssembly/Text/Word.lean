import SqlAssembly.Text.Ranges
import SqlAssembly.Text.WordData

/-! # Word characters

The characters that a placeholder name is made of: letters, marks, decimal digits, connector
punctuation and join controls.

* `Text.isWord`    whether a character is one of them
* `Text.isWordText`  whether a text is a non-empty run of them -/

namespace SqlAssembly.Text

/-- Whether the character is an ASCII letter or digit or the low line. -/
def isAsciiWord (c : Char) : Bool := c.isAlphanum || c = '_'

/-- Whether the character is a word character. -/
def isWord (c : Char) : Bool :=
  if c.toNat < 0x80 then isAsciiWord c else inRanges wordRanges c.toNat

/-- Whether the text is a non-empty run of word characters. -/
def isWordText (s : String) : Bool := !s.toList.isEmpty && s.toList.all isWord

theorem isWord_of_isAlphanum {c : Char} (h : c.isAlphanum) (ha : c.toNat < 0x80) : isWord c := by
  simp [isWord, isAsciiWord, ha, h]

end SqlAssembly.Text
