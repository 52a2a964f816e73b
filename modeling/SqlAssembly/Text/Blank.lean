/-! # White space

* `Text.isBlank`  the characters with the Unicode property `White_Space`
* `Text.trim`     a text without the white space at its ends -/

namespace SqlAssembly.Text

/-- Whether the character is white space. -/
def isBlank (c : Char) : Bool :=
  let n := c.toNat
  (9 ≤ n && n ≤ 13) || n = 0x20 || n = 0x85 || n = 0xA0 || n = 0x1680 ||
    (0x2000 ≤ n && n ≤ 0x200A) || n = 0x2028 || n = 0x2029 || n = 0x202F || n = 0x205F ||
    n = 0x3000

/-- The characters from the first one on that is not white space. -/
def trimLeft (cs : List Char) : List Char := cs.dropWhile isBlank

/-- The characters up to the last one that is not white space. -/
def trimRight (cs : List Char) : List Char := (cs.reverse.dropWhile isBlank).reverse

/-- The characters without white space at either end. -/
def trimChars (cs : List Char) : List Char := trimRight (trimLeft cs)

/-- The text without white space at either end. -/
def trim (s : String) : String := String.ofList (trimChars s.toList)

@[simp] theorem toList_trim (s : String) : (trim s).toList = trimChars s.toList := by
  simp [trim]

end SqlAssembly.Text
