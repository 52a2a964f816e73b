import SqlAssembly.Number.Numeral
import SqlAssembly.Text.HiddenData
import SqlAssembly.Text.Ranges

/-! # Texts between double quotes

A text as a report shows it: between double quotes, with quotes, backslashes and the common
controls behind a backslash and every other character that does not show by its code point.

* `Text.isHidden`   whether a character does not show
* `Text.literal`    the text between double quotes -/

namespace SqlAssembly.Text

/-- Whether the character has no glyph of its own. -/
def isHidden (c : Char) : Bool :=
  if c.toNat < 0x80 then c.toNat < 0x20 || c.toNat = 0x7F else inRanges hiddenRanges c.toNat

/-- A character by its code point. -/
def codePointText (c : Char) : List Char :=
  "\\u\x7b".toList ++ Numeral.text 16 c.toNat ++ ['\x7d']

/-- A character as it stands between double quotes. -/
def literalChar (c : Char) : List Char :=
  if c = '"' then ['\\', '"']
  else if c = '\\' then ['\\', '\\']
  else if c = '\n' then ['\\', 'n']
  else if c = '\r' then ['\\', 'r']
  else if c = '\t' then ['\\', 't']
  else if c = Char.ofNat 0 then ['\\', '0']
  else if isHidden c then codePointText c
  else [c]

/-- The text between double quotes. -/
def literal (s : String) : String :=
  String.ofList ('"' :: s.toList.flatMap literalChar ++ ['"'])

end SqlAssembly.Text
