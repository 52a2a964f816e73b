import SqlAssembly.Text.CaseData

/-! # Full lower-casing

Lower-casing over all of Unicode: most characters map one by one, the capital I with a dot becomes
two characters, and a capital sigma at the end of a word takes its final form.

* `Text.lowerChar`   the lower-case form of a character wherever it stands
* `Text.isFinal`     whether a sigma between two contexts ends a word
* `Text.lowercase`   a text in lower case -/

namespace SqlAssembly.Text

/-- Whether the character has case. -/
def isCased (c : Char) : Bool :=
  if c.toNat < 0x80 then c.isAlpha else inRanges casedRanges c.toNat

/-- Whether case rules look through the character. -/
def isCaseIgnorable (c : Char) : Bool :=
  if c.toNat < 0x80 then c = '\'' || c = '.' || c = ':' || c = '^' || c = Char.ofNat 0x60
  else inRanges caseIgnorableRanges c.toNat

/-- The code point of the lower-case form of a character, where that is one character. -/
def lowerCode (code : Nat) : Nat := shiftCode lowerRanges code

/-- The capital sigma, the one letter whose lower-case form hangs on its neighbours. -/
def capitalSigma : Char := Char.ofNat 0x3A3

/-- The lower-case form of a character that is not a capital sigma at the end of a word. -/
def lowerChar (c : Char) : List Char :=
  if c.toNat < 0x80 then [c.toLower]
  -- The dot of the capital I stays as a combining one.
  else if c.toNat = 0x130 then ['i', Char.ofNat 0x307]
  else [Char.ofNat (lowerCode c.toNat)]

/-- Whether the first character that case rules do not look through has case. -/
def meetsCased (cs : List Char) : Bool :=
  match cs.dropWhile isCaseIgnorable with
  | [] => false
  | c :: _ => isCased c

/-- Whether a sigma ends a word, given the characters in front of it from the last to the first
    and the ones behind it. -/
def isFinal (before after : List Char) : Bool := meetsCased before && !meetsCased after

/-- The lower-case form of characters, given the ones in front of them in reverse. -/
def lowerFrom (before : List Char) : List Char → List Char
  | [] => []
  | c :: cs =>
    (if c = capitalSigma ∧ isFinal before cs then [Char.ofNat 0x3C2] else lowerChar c) ++
      lowerFrom (c :: before) cs

/-- The text in lower case. -/
def lowercase (s : String) : String := String.ofList (lowerFrom [] s.toList)

end SqlAssembly.Text
