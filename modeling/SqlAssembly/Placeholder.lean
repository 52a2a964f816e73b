import SqlAssembly.Text.Word
import SqlAssembly.Text.Split

/-! # Placeholders

A placeholder in a text is an at sign with the word characters behind it, of which there must be
one at least.

* `Placeholder.tokens`   the placeholders of a text, from left to right
* `Placeholder.clean`    a name without at signs in front of it and without backticks -/

namespace SqlAssembly.Placeholder

/-- The placeholders of a text.  Word characters are never at signs, so the search goes on right
    behind the at sign. -/
def tokenChars : List Char → List (List Char)
  | [] => []
  | c :: cs =>
    if c = '@' then
      match cs.takeWhile Text.isWord with
      | [] => tokenChars cs
      | name => ('@' :: name) :: tokenChars cs
    else tokenChars cs

/-- The placeholders of a text, from left to right. -/
def tokens (s : String) : List String := (tokenChars s.toList).map String.ofList

/-- The name without at signs in front of it and without backticks. -/
def clean (name : String) : String :=
  String.ofList ((name.toList.dropWhile (· = '@')).filter (· ≠ Char.ofNat 0x60))

/-- The last segment of a dotted name, cleaned. -/
def cleanLast (name : String) : String := clean (Text.lastSegment '.' name)

end SqlAssembly.Placeholder
