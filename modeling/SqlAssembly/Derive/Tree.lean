import SqlAssembly.Derive.Token

/-! # Tokens in brackets

Tokens are put into groups by their brackets.  An angle opens a group only where arguments may
stand: anywhere in a type, but in an expression only behind two colons, in a type that is part of
it, or where an operand is expected.  The arguments in angles come with the lifetimes in front.

* `Tree`                     a token or a group
* `Tree.lifetimesFirst`      arguments with the lifetimes in front
* `Reading`                  what kind of text tokens are part of
* `Tree.ofTokens`            the groups of tokens
* `Tree.text`                groups as text without any spaces -/

namespace SqlAssembly.Derive

/-- A pair of brackets. -/
inductive Bracket where
  | round
  | square
  | curly
  | angle
deriving DecidableEq, Repr

namespace Bracket

/-- The mark that opens a group. -/
def opening : Bracket → Char
  | round => '('
  | square => '['
  | curly => '\x7b'
  | angle => '<'

/-- The mark that closes a group. -/
def closing : Bracket → Char
  | round => ')'
  | square => ']'
  | curly => '\x7d'
  | angle => '>'

/-- Whether a token closes a group, given the token in front of it: the tip of an arrow closes
    none. -/
def isClosedBy (b : Bracket) (before t : Token) : Bool :=
  t = .mark b.closing && (b ≠ angle || before ≠ .mark '-')

end Bracket

/-- A token or a group of them in brackets. -/
inductive Tree where
  | leaf (t : Token)
  | group (b : Bracket) (inner : List Tree)
deriving Repr

namespace Tree

/-! ## Text -/

mutual

/-- The tokens of a tree. -/
def tokens : Tree → List Token
  | leaf t => [t]
  | group b inner => .mark b.opening :: allTokens inner ++ [.mark b.closing]

/-- The tokens of trees. -/
def allTokens : List Tree → List Token
  | [] => []
  | t :: ts => tokens t ++ allTokens ts

end

/-- The text of trees without any spaces. -/
def text (ts : List Tree) : String :=
  String.ofList (((allTokens ts).flatMap Token.chars).filter (· ≠ ' '))

/-! ## Lists -/

/-- Whether the tree is the mark `c`. -/
def isMark (c : Char) : Tree → Bool
  | leaf t => t = .mark c
  | group .. => false

/-- Put a tree in front of the first piece. -/
def consPiece (t : Tree) : List (List Tree) → List (List Tree)
  | [] => [[t]]
  | piece :: pieces => (t :: piece) :: pieces

/-- The pieces between the commas; one more than those. -/
def pieces : List Tree → List (List Tree)
  | [] => [[]]
  | t :: ts => if t.isMark ',' then [] :: pieces ts else consPiece t (pieces ts)

/-- Whether trees end in a comma. -/
def endsInComma (ts : List Tree) : Bool := ts.getLast?.any (isMark ',')

/-- The items between the commas.  A comma at the end has no item behind it. -/
def items (ts : List Tree) : List (List Tree) :=
  let all := pieces ts
  if (all.getLast?.any List.isEmpty) then all.dropLast else all

/-- The trees behind the attributes in front. -/
def dropAttributes : List Tree → List Tree
  | leaf (.mark '#') :: group .square _ :: ts => dropAttributes ts
  | ts => ts

/-- The attributes in front. -/
def takeAttributes (ts : List Tree) : List Tree := ts.take (ts.length - (dropAttributes ts).length)

/-- Whether an item is a lifetime; with a plus behind it, it is a sum of bounds. -/
def isLifetime (item : List Tree) : Bool :=
  match dropAttributes item with
  | leaf (.lifetime _) :: rest => !rest.head?.any (isMark '+')
  | _ => false

/-- Items with commas between them, and one behind them if `comma` is set. -/
def joinItems (items : List (List Tree)) (comma : Bool) : List Tree :=
  List.intercalate [leaf (.mark ',')] items ++ if comma then [leaf (.mark ',')] else []

/-- The arguments with the lifetimes in front.  A lifetime that moves away from the end leaves the
    comma of its predecessor there. -/
def lifetimesFirst (ts : List Tree) : List Tree :=
  let lifetimes := (items ts).filter isLifetime
  let others := (items ts).filter fun item => !isLifetime item
  let moves := (items ts).getLast?.any isLifetime && !others.isEmpty
  joinItems (lifetimes ++ others) (endsInComma ts || moves)

end Tree

/-! ## Reading -/

/-- What kind of text tokens are part of. -/
inductive Reading where
  /-- The input of a macro or an attribute, in which an angle is a sign. -/
  | copied
  /-- A type, a bound or a parameter. -/
  | type
  /-- The names that a `let` or a constant binds, with their type. -/
  | binding
  /-- The parameters of a closure, with their types. -/
  | parameters
  /-- The head of a declaration inside of an expression. -/
  | head
  /-- An expression, where an operand is expected. -/
  | operand
  /-- An expression, where an operand has ended. -/
  | operator
  /-- An expression, behind two colons. -/
  | path
  /-- A type inside of an expression, where a name is expected. -/
  | cast
  /-- A type inside of an expression, where a name has ended. -/
  | castName
deriving DecidableEq, Repr

namespace Reading

/-- Whether an angle opens a group. -/
def opensAngle : Reading → Bool
  | copied | operator => false
  | _ => true

/-- Whether this is part of a type. -/
def isTypical : Reading → Bool
  | type | binding | parameters | head | cast | castName => true
  | _ => false

/-- The brackets of the group that a token opens, given the token behind it. -/
def opened? (r : Reading) (t : Token) (next : Option Token) : Option Bracket :=
  match t with
  | .mark '(' => some .round
  | .mark '[' => some .square
  | .mark '\x7b' => some .curly
  | .mark '<' => if r.opensAngle ∧ next ≠ some (.mark '=') then some .angle else none
  | _ => none

/-- What a group is part of, given the token in front of it. -/
def inside (r : Reading) (before : Token) (b : Bracket) : Reading :=
  -- The mark of a macro stands behind a name, the one of a negation where an operand is expected.
  if r = copied ∨ before = .mark '#' ∨ (before = .mark '!' ∧ r ≠ operand) then copied
  else
    match b with
    | .angle => type
    | .curly => operand
    | .round | .square => if r.isTypical then type else operand

/-- What the tokens behind a group are part of, given the token in front of it. -/
def behind (r : Reading) (before : Token) (b : Bracket) : Reading :=
  match r with
  | copied | type | parameters => r
  | binding => if b = .curly then operator else r
  | head => if b = .curly then operand else r
  | cast | castName => if b = .curly then operator else castName
  | operand | operator | path => if before = .mark '#' then operand else operator

/-- The keywords that an operand follows. -/
def operandKeywords : List String :=
  ["break", "else", "if", "in", "match", "mut", "return", "while"]

/-- The keywords that a declaration starts with. -/
def headKeywords : List String := ["enum", "fn", "impl", "struct", "trait", "type"]

/-- The keywords that the names of values follow. -/
def bindingKeywords : List String := ["const", "let", "static"]

/-- The keywords that the name of a type follows. -/
def castKeywords : List String := ["const", "dyn", "impl", "mut"]

/-- What the tokens behind a word in an expression are part of. -/
def afterWord (r : Reading) (word : String) : Reading :=
  if r = cast then if castKeywords.contains word then cast else castName
  else if word = "as" then cast
  else if bindingKeywords.contains word then binding
  else if headKeywords.contains word then head
  else if operandKeywords.contains word then operand
  else operator

/-- What the tokens behind a mark in an expression are part of, given the token in front of the
    mark and the one behind it. -/
def afterMark (r : Reading) (before : Token) (c : Char) (next : Option Token) : Reading :=
  if c = ':' then
    if before = .mark ':' then if r = castName then cast else path
    else if r = castName then castName else operand
  else if c = '>' ∧ before = .mark '-' then cast
  else if r = cast ∧ (c = '&' ∨ c = '*') then cast
  else if r = operand ∧ c = '|' then parameters
  else if r = operator ∧ (c = '!' ∨ c = '?') then operator
  -- Two angles that open are the sign of a shift.
  else if r = operator ∧ c = '<' ∧ next = some (.mark '<') then operator
  else operand

/-- What the tokens behind a token that opens no group are part of. -/
def after (r : Reading) (before t : Token) (next : Option Token) : Reading :=
  match r, t with
  | copied, _ => copied
  -- The length of an array follows the type of its elements.
  | type, t => if t = .mark ';' then operand else type
  | binding, t => if t = .mark '=' ∨ t = .mark ';' then operand else binding
  | parameters, t => if t = .mark '|' then operand else parameters
  | head, t => if t = .mark ';' then operand else head
  | r, .word word => r.afterWord word
  | r, .mark c => r.afterMark before c next
  | r, _ => if r = cast then cast else operator

end Reading

namespace Tree

/-- Tokens in groups up to the one that closes the group `outer`, and what follows that one, given
    the token in front.  There are at most `fuel` tokens. -/
def readWith : Nat → Option Bracket → Reading → Token → List Token → List Tree × List Token
  | 0, _, _, _, _ => ([], [])
  | _, _, _, _, [] => ([], [])
  | fuel + 1, outer, r, before, t :: ts =>
    if outer.any (·.isClosedBy before t) then ([], ts)
    else
      match r.opened? t ts.head? with
      | some b =>
        let (inner, rest) := readWith fuel (some b) (r.inside before b) t ts
        let (trees, rest) := readWith fuel outer (r.behind before b) (.mark b.closing) rest
        (group b (if b = .angle then lifetimesFirst inner else inner) :: trees, rest)
      | none =>
        let (trees, rest) := readWith fuel outer (r.after before t ts.head?) t ts
        (leaf t :: trees, rest)

/-- Tokens in groups. -/
def ofTokens (r : Reading) (ts : List Token) : List Tree :=
  (readWith ts.length none r (.mark ',') ts).1

/-- The tokens of a text in groups. -/
def ofString (r : Reading) (s : String) : List Tree := ofTokens r (Token.ofString s)

end Tree

end SqlAssembly.Derive
