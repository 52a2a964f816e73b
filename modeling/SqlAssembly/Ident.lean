import SqlAssembly.Text.Split

/-! # Identifiers

A column name that arrives in a request: segments with dots between them, each one bare or between
backticks with the backticks inside it doubled.

* `Ident.read`   the identifier that a text spells, or what is wrong with the text
* `Ident.sql`    the text of an identifier -/

namespace SqlAssembly

/-- A segment of an identifier. -/
inductive Ident.Part where
  /-- A letter or `_`, then letters, digits, `_` and `$`. -/
  | bare (name : String)
  /-- What stands between backticks, each doubled backtick being one. -/
  | quoted (name : String)
deriving DecidableEq, Repr

/-- A column name of one or more segments. -/
structure Ident where
  parts : List Ident.Part
deriving DecidableEq, Repr

namespace Ident

/-- The character that quotes a segment. -/
def backtick : Char := Char.ofNat 0x60

/-- What is wrong with a text that is no identifier. -/
inductive Fault where
  | empty
  | containsNul
  | emptyQuoted
  | unclosed
  | emptySegment
  | badStart
  | unexpected (c : Char)
  | notSeparated
  | trailingDot
deriving DecidableEq, Repr

/-- The fault in words. -/
def Fault.reason : Fault → String
  | empty => "empty"
  | containsNul => "contains NUL"
  | emptyQuoted => "empty quoted segment"
  | unclosed => "missing closing backtick"
  | emptySegment => "empty segment"
  | badStart => "segment must start with a letter or `_`"
  | unexpected c => "unexpected character '" ++ c.toString ++ "'"
  | notSeparated => "segments must be separated by '.'"
  | trailingDot => "trailing '.'"

/-- Whether a bare segment may start with the character. -/
def isBareStart (c : Char) : Bool := c = '_' || c.isAlpha

/-- Whether a bare segment may go on with the character. -/
def isBareContinue (c : Char) : Bool := c = '_' || c = '$' || c.isAlphanum

/-! ## Text -/

/-- The characters with each backtick doubled. -/
def escape : List Char → List Char
  | [] => []
  | c :: cs => if c = backtick then backtick :: backtick :: escape cs else c :: escape cs

/-- The text of a segment. -/
def Part.chars : Part → List Char
  | bare name => name.toList
  | quoted name => backtick :: escape name.toList ++ [backtick]

/-- The texts of segments with dots between them. -/
def joinParts : List Part → List Char
  | [] => []
  | [p] => p.chars
  | p :: ps => p.chars ++ '.' :: joinParts ps

/-- The text of an identifier. -/
def sql (i : Ident) : String := String.ofList (joinParts i.parts)

/-! ## Reading -/

/-- What stands in front of the closing backtick and what behind it; none without one.  A doubled
    backtick does not close. -/
def readQuoted? : List Char → Option (List Char × List Char)
  | [] => none
  | [c] => if c = backtick then some ([], []) else none
  | c :: d :: cs =>
    if c = backtick then
      if d = backtick then (readQuoted? cs).map fun p => (backtick :: p.1, p.2)
      else some ([], d :: cs)
    else (readQuoted? (d :: cs)).map fun p => (c :: p.1, p.2)

/-- The quoted segment whose opening backtick stands in front of the text. -/
def readQuotedPart (cs : List Char) : Except Fault (Part × List Char) :=
  match readQuoted? cs with
  | none => .error .unclosed
  | some ([], _) => .error .emptyQuoted
  | some (name, rest) => .ok (.quoted (String.ofList name), rest)

/-- The bare segment that goes up to the next dot. -/
def readBarePart (cs : List Char) : Except Fault (Part × List Char) :=
  match cs.takeWhile (· ≠ '.') with
  | [] => .error .emptySegment
  | c :: name =>
    if isBareStart c then
      match name.find? fun d => !isBareContinue d with
      | some d => .error (.unexpected d)
      | none => .ok (.bare (String.ofList (c :: name)), cs.dropWhile (· ≠ '.'))
    else .error .badStart

/-- The segment at the front of a text, and what follows it. -/
def readPart : List Char → Except Fault (Part × List Char)
  | [] => readBarePart []
  | c :: cs => if c = backtick then readQuotedPart cs else readBarePart (c :: cs)

/-- The segments of a text, of which there are at most `fuel`. -/
def readParts : Nat → List Char → Except Fault (List Part)
  | 0, _ => .error .emptySegment
  | fuel + 1, cs => do
    let (part, rest) ← readPart cs
    match rest with
    | [] => .ok [part]
    | c :: rest =>
      if c = '.' then
        if rest.isEmpty then .error .trailingDot
        else
          let parts ← readParts fuel rest
          .ok (part :: parts)
      else .error .notSeparated

/-- The identifier that a text spells, or what is wrong with the text. -/
def read (s : String) : Except Fault Ident :=
  let cs := s.toList
  if cs.isEmpty then .error .empty
  else if cs.contains (Char.ofNat 0) then .error .containsNul
  else (readParts cs.length cs).map Ident.mk

end Ident

end SqlAssembly
