/-! # Cutting texts at separators

* `Text.splitAt`      the pieces of a text between the occurrences of a character
* `Text.splitOn`      the pieces of a text between the occurrences of a separator
* `Text.cutAt?`       the parts of a text around the first occurrence of a separator
* `Text.lastSegment`  what follows the last occurrence of a character -/

namespace SqlAssembly.Text

/-- Put a character in front of the first piece. -/
def consPiece (c : Char) : List (List Char) → List (List Char)
  | [] => [[c]]
  | p :: ps => (c :: p) :: ps

/-- The pieces between the occurrences of the character `sep`; one more than those. -/
def piecesAt (sep : Char) : List Char → List (List Char)
  | [] => [[]]
  | c :: cs => if c = sep then [] :: piecesAt sep cs else consPiece c (piecesAt sep cs)

/-- The pieces of a text between the occurrences of the character `sep`. -/
def splitAt (sep : Char) (s : String) : List String :=
  (piecesAt sep s.toList).map String.ofList

/-- The pieces between the occurrences of the separator `sep`, which must not be empty, behind
    `skip` characters that belong to an occurrence already found.  Occurrences are found from the
    left and do not overlap. -/
def piecesOn (sep : List Char) : Nat → List Char → List (List Char)
  | _, [] => [[]]
  | skip + 1, _ :: cs => piecesOn sep skip cs
  | 0, c :: cs =>
    if sep.isPrefixOf (c :: cs) then [] :: piecesOn sep (sep.length - 1) cs
    else consPiece c (piecesOn sep 0 cs)

/-- The pieces of a text between the occurrences of the separator `sep`. -/
def splitOn (sep : String) (s : String) : List String :=
  (piecesOn sep.toList 0 s.toList).map String.ofList

/-- The characters in front of the first occurrence of `sep` and the ones behind it. -/
def cutChars? (sep : List Char) : List Char → Option (List Char × List Char)
  | [] => if sep.isEmpty then some ([], []) else none
  | c :: cs =>
    if sep.isPrefixOf (c :: cs) then some ([], (c :: cs).drop sep.length)
    else (cutChars? sep cs).map fun p => (c :: p.1, p.2)

/-- The parts of a text around the first occurrence of `sep`. -/
def cutAt? (sep : String) (s : String) : Option (String × String) :=
  (cutChars? sep.toList s.toList).map fun p => (String.ofList p.1, String.ofList p.2)

/-- What follows the last occurrence of the character `sep`, or the whole text without one. -/
def lastSegment (sep : Char) (s : String) : String :=
  String.ofList (s.toList.reverse.takeWhile (· ≠ sep)).reverse

/-- Whether the text `cs` ends in `tail`. -/
def endsIn (tail s : String) : Bool := tail.toList.isSuffixOf s.toList

end SqlAssembly.Text
