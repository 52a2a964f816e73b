import SqlAssembly.Text.Name
import SqlAssembly.Text.Split
import SqlAssembly.Text.Uppercase

/-! # Names of constants

A constant is named after a field: its words in capitals, with low lines between them.  A word
ends where a capital follows a small letter, in front of the last one of several capitals that a
small letter follows, and where a character is neither a letter nor a digit.

* `nameWords`       the words of a name
* `constantName`    the name of the constant
* `isNameable`      whether it can be one
* `unraw`           a name without the mark of a raw one -/

namespace SqlAssembly.Derive

/-- The name without the mark of a name that would be a keyword. -/
def unraw (name : String) : String :=
  match name.toList with
  | 'r' :: '#' :: rest => String.ofList rest
  | _ => name

/-- The case of the last letter of a word that has one. -/
inductive LetterCase where
  | neither
  | lower
  | upper
deriving DecidableEq, Repr

/-- The case of a letter, or else the one before it. -/
def LetterCase.after (before : LetterCase) (c : Char) : LetterCase :=
  if Text.isLower c then lower else if Text.isUpper c then upper else before

/-- The words of letters and digits, given the word so far and the case of its last letter. -/
def caseWords (before : LetterCase) (word : List Char) : List Char → List (List Char)
  | [] => if word.isEmpty then [] else [word]
  | [c] => [word ++ [c]]
  | c :: d :: cs =>
    -- `userId`: the word ends behind `c`.
    if before.after c = .lower ∧ Text.isUpper d then
      (word ++ [c]) :: caseWords .neither [] (d :: cs)
    -- `HTTPServer`: the word ends in front of `c`.
    else if before = .upper ∧ Text.isUpper c ∧ Text.isLower d then
      word :: caseWords .neither [c] (d :: cs)
    else caseWords (before.after c) (word ++ [c]) (d :: cs)

/-- The runs of letters and digits. -/
def alphanumericRuns : List Char → List (List Char)
  | [] => [[]]
  | c :: cs =>
    if Text.isAlphanumeric c then Text.consPiece c (alphanumericRuns cs)
    else [] :: alphanumericRuns cs

/-- The words of a name. -/
def nameWords (name : List Char) : List (List Char) :=
  (alphanumericRuns name).flatMap (caseWords .neither [])

/-- The name of the constant for a field. -/
def constantName (field : String) : String :=
  "_".intercalate ((nameWords field.toList).map fun w => String.ofList (Text.uppercase w))

/-- Whether a constant can have the name.  What goes on a name may be all that is left of one. -/
def isNameable (name : String) : Bool := Text.isName name.toList

end SqlAssembly.Derive
