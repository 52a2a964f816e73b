import SqlAssembly.Number.Numeral
import SqlAssembly.Text.Blank
import SqlAssembly.Text.Literal
import SqlAssembly.Text.Name

/-! # Tokens of declarations

The types, the parameters and the attributes of a declaration come as text.  What is said about
them, and what is copied from them, goes by tokens, so blanks and comments between tokens do not
count.  A comment that documents something stands for an attribute.

* `Token`              the tokens
* `Token.ofString`     the tokens of a text
* `Comment`            the comments, and `Comment.tokens` what they stand for
* `Token.unescape`     the text that is written with escapes -/

namespace SqlAssembly.Derive

/-- A token of a declaration. -/
inductive Token where
  /-- A name or a keyword; a name may have `r#` in front of it. -/
  | word (written : String)
  /-- A name behind an apostrophe. -/
  | lifetime (written : String)
  /-- A number, a character or bytes. -/
  | literal (written : String)
  /-- A text as it is written, and the text that it is. -/
  | text (written value : String)
  /-- Any other character. -/
  | mark (c : Char)
deriving DecidableEq, Repr

namespace Token

/-- The characters of a token. -/
def chars : Token → List Char
  | word s | lifetime s | literal s | text s _ => s.toList
  | mark c => [c]

/-- The token of a text, written between double quotes. -/
def quoted (s : String) : Token := text (Text.literal s) s

end Token

/-! ## Comments -/

/-- A comment. -/
inductive Comment where
  | plain
  /-- A comment on what follows, or else on what it stands in. -/
  | documentation (isInner : Bool) (text : String)
deriving DecidableEq, Repr

namespace Comment

/-- The tokens that a comment stands for: an attribute, if it documents something. -/
def tokens : Comment → List Token
  | plain => []
  | documentation isInner text =>
    .mark '#' :: (if isInner then [.mark '!'] else []) ++
      [.mark '[', .word "doc", .mark '=', .quoted text, .mark ']']

/-- The comment with the text `cs` from two slashes to the end of the line. -/
def ofLine : List Char → Comment
  | '!' :: cs => documentation true (String.ofList cs)
  | '/' :: cs => if cs.head? = some '/' then plain else documentation false (String.ofList cs)
  | _ => plain

/-- The comment with the text `cs` between a slash with a star and a star with a slash. -/
def ofBlock : List Char → Comment
  | '!' :: cs => documentation true (String.ofList cs)
  | '*' :: c :: cs => if c = '*' then plain else documentation false (String.ofList (c :: cs))
  | _ => plain

/-- A line without the carriage return at its end. -/
def trimReturn (cs : List Char) : List Char := if cs.getLast? = some '\r' then cs.dropLast else cs

/-- The characters up to the end of a comment, given how many comments are open inside of it, and
    what follows; none without an end. -/
def cutBlock? (depth : Nat) : List Char → Option (List Char × List Char)
  | '/' :: '*' :: cs => (cutBlock? (depth + 1) cs).map fun p => ('/' :: '*' :: p.1, p.2)
  | '*' :: '/' :: cs =>
    match depth with
    | 0 => some ([], cs)
    | depth + 1 => (cutBlock? depth cs).map fun p => ('*' :: '/' :: p.1, p.2)
  | c :: cs => (cutBlock? depth cs).map fun p => (c :: p.1, p.2)
  | [] => none

/-- The comment at the front of a text, and what follows it. -/
def cut? : List Char → Option (Comment × List Char)
  | '/' :: '/' :: cs =>
    some (ofLine (trimReturn (cs.takeWhile (· ≠ '\n'))), cs.dropWhile (· ≠ '\n'))
  | '/' :: '*' :: cs => (cutBlock? 0 cs).map fun p => (ofBlock p.1, p.2)
  | _ => none

end Comment

namespace Token

/-! ## Literals -/

/-- The characters up to the quote that closes a literal, and what follows it; a backslash guards
    the character behind it. -/
def cutQuoted (quote : Char) : List Char → List Char × List Char
  | [] => ([], [])
  | '\\' :: c :: cs => ('\\' :: c :: (cutQuoted quote cs).1, (cutQuoted quote cs).2)
  | c :: cs => if c = quote then ([], cs) else (c :: (cutQuoted quote cs).1, (cutQuoted quote cs).2)

/-- The characters up to a double quote with `hashes` many hashes behind it, and what follows. -/
def cutRaw (hashes : Nat) : List Char → List Char × List Char
  | [] => ([], [])
  | c :: cs =>
    if c = '"' ∧ cs.take hashes = List.replicate hashes '#' then ([], cs.drop hashes)
    else (c :: (cutRaw hashes cs).1, (cutRaw hashes cs).2)

/-- A raw text behind its `r`, and what follows it: as many hashes behind it as in front. -/
def cutRaw? (cs : List Char) : Option (List Char × List Char) :=
  let hashes := (cs.takeWhile (· = '#')).length
  match cs.drop hashes with
  | '"' :: rest => some (cutRaw hashes rest)
  | _ => none

/-- What an escape stands for, given the text behind its backslash, and what follows it.  A line
    end stands for nothing, and neither do the blanks behind it. -/
def readEscape : List Char → List Char × List Char
  | 'n' :: cs => (['\n'], cs)
  | 'r' :: cs => (['\r'], cs)
  | 't' :: cs => (['\t'], cs)
  | '0' :: cs => ([Char.ofNat 0], cs)
  | 'x' :: a :: b :: cs => ([Char.ofNat ((Numeral.read? 16 [a, b]).getD 0)], cs)
  | 'u' :: '\x7b' :: cs =>
    let digits := (cs.takeWhile (· ≠ '\x7d')).filter (· ≠ '_')
    ([Char.ofNat ((Numeral.read? 16 digits).getD 0)], (cs.dropWhile (· ≠ '\x7d')).drop 1)
  | '\n' :: cs | '\r' :: cs => ([], cs.dropWhile Text.isBlank)
  | c :: cs => ([c], cs)
  | [] => ([], [])

/-- The text that at most `fuel` characters with escapes stand for. -/
def unescapeWith : Nat → List Char → List Char
  | 0, _ => []
  | _, [] => []
  | fuel + 1, c :: cs =>
    if c = '\\' then (readEscape cs).1 ++ unescapeWith fuel (readEscape cs).2
    else if c = '\r' ∧ cs.head? = some '\n' then unescapeWith fuel cs
    else c :: unescapeWith fuel cs

/-- The text that characters with escapes stand for. -/
def unescape (cs : List Char) : String := String.ofList (unescapeWith cs.length cs)

/-- Whether what follows an apostrophe is a character and the apostrophe that closes it. -/
def isCharacter : List Char → Bool
  | '\\' :: _ => true
  | _ :: '\x27' :: _ => true
  | _ => false

/-- What follows a number, given the text behind its first digit.  The point of a number is none
    of a range and none in front of a name. -/
def dropNumber (cs : List Char) : List Char :=
  match cs.dropWhile Text.isNameContinue with
  | '.' :: rest =>
    if rest.head?.any fun c => c = '.' || Text.isNameStart c then '.' :: rest
    else rest.dropWhile Text.isNameContinue
  | rest => rest

/-- The literal at the front of a text: its value if it is a text, and what follows it. -/
def cutLiteral? : List Char → Option (Option String × List Char)
  | '"' :: cs => some (some (unescape (cutQuoted '"' cs).1), (cutQuoted '"' cs).2)
  | 'b' :: '"' :: cs | 'c' :: '"' :: cs => some (none, (cutQuoted '"' cs).2)
  | 'b' :: '\x27' :: cs => some (none, (cutQuoted '\x27' cs).2)
  | 'r' :: cs => (cutRaw? cs).map fun p => (some (String.ofList p.1), p.2)
  | 'b' :: 'r' :: cs | 'c' :: 'r' :: cs => (cutRaw? cs).map fun p => (none, p.2)
  | '\x27' :: cs => if isCharacter cs then some (none, (cutQuoted '\x27' cs).2) else none
  | c :: cs => if Numeral.isDigit c then some (none, dropNumber cs) else none
  | [] => none

/-- What follows the name behind a literal that says which type it has, if there is one. -/
def dropSuffix (cs : List Char) : List Char :=
  if cs.head?.any Text.isNameStart then cs.dropWhile Text.isNameContinue else cs

/-! ## Reading -/

/-- What follows the name at the front of a text. -/
def dropName? : List Char → Option (List Char)
  | 'r' :: '#' :: c :: cs =>
    some (if Text.isNameStart c then cs.dropWhile Text.isNameContinue else '#' :: c :: cs)
  | c :: cs => if Text.isNameStart c then some (cs.dropWhile Text.isNameContinue) else none
  | [] => none

/-- The token that starts with the character `c`, and what follows it. -/
def first (c : Char) (cs : List Char) : Token × List Char :=
  let upTo (rest : List Char) : String :=
    String.ofList ((c :: cs).take ((c :: cs).length - rest.length))
  match cutLiteral? (c :: cs) with
  | some (some value, rest) => (.text (upTo (dropSuffix rest)) value, dropSuffix rest)
  | some (none, rest) => (.literal (upTo (dropSuffix rest)), dropSuffix rest)
  | none =>
    match dropName? (c :: cs), dropName? cs with
    | some rest, _ => (.word (upTo rest), rest)
    | none, some rest => if c = '\x27' then (.lifetime (upTo rest), rest) else (.mark c, cs)
    | none, none => (.mark c, cs)

/-- Whether the character is a blank between tokens: white space or a mark of direction. -/
def isBlank (c : Char) : Bool := Text.isBlank c || c.toNat = 0x200E || c.toNat = 0x200F

/-- The tokens of a text of at most `fuel` characters. -/
def read : Nat → List Char → List Token
  | 0, _ => []
  | _, [] => []
  | fuel + 1, c :: cs =>
    if isBlank c then read fuel cs
    else
      match Comment.cut? (c :: cs) with
      | some (comment, rest) => comment.tokens ++ read fuel rest
      | none => (first c cs).1 :: read fuel (first c cs).2

/-- The tokens of a text. -/
def ofString (s : String) : List Token := read s.toList.length s.toList

end Token

end SqlAssembly.Derive
