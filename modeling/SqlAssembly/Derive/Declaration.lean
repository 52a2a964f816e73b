import SqlAssembly.Derive.ConstantName
import SqlAssembly.Derive.Token
import SqlAssembly.Ident
import SqlAssembly.Text.Blank

/-! # Declarations

A declared type from which a model or an enumeration is to be derived, and why that may fail.

* `Declaration`          name, parameters, attributes and shape of a declared type
* `DeriveError`          why nothing can be derived; `DeriveError.message` is its text
* `Attribute.settings`   carries out the settings of an attribute
* `readName`             a plain name, or several with dots between them -/

namespace SqlAssembly.Derive

/-! ## Declared types -/

/-- An attribute: settings as they are written, of which the last one may get a text for its
    value. -/
structure Attribute where
  key : String
  value : Option String
deriving DecidableEq, Repr

/-- The tokens of an attribute. -/
def Attribute.tokens (a : Attribute) : List Token :=
  Token.ofString a.key ++
    match a.value with
    | some value => [.mark '=', .quoted value]
    | none => []

/-- A field of a declared type.  Its type and its visibility are kept as they are written. -/
structure DeclaredField where
  name : String
  type : String
  visibility : String
  attributes : List Attribute
deriving DecidableEq, Repr

/-- A variant of a declared type, and what follows its name. -/
structure DeclaredVariant where
  name : String
  data : String
deriving DecidableEq, Repr

/-- Whether fields follow the name. -/
def DeclaredVariant.hasData (v : DeclaredVariant) : Bool :=
  match Token.ofString v.data with
  | .mark c :: _ => c = '(' || c = '\x7b'
  | _ => false

/-- What a declared type consists of. -/
inductive Shape where
  | named (fields : List DeclaredField)
  | tuple
  | unit
  | union
  | variants (variants : List DeclaredVariant)
deriving DecidableEq, Repr

/-- A declared type.  Its parameters are kept as they are written. -/
structure Declaration where
  name : String
  generics : String
  attributes : List Attribute
  shape : Shape
deriving DecidableEq, Repr

/-! ## Errors -/

/-- What a name in an attribute is the name of. -/
inductive NameRole where
  | table
  | column
deriving DecidableEq, Repr

/-- The role in words. -/
def NameRole.text : NameRole → String
  | table => "table"
  | column => "column"

/-- What a setting lacks. -/
inductive Lack where
  | setting
  | name
  | equals
  | text
  | comma
deriving DecidableEq, Repr

/-- The lack in words. -/
def Lack.words : Lack → String
  | setting => "nested attribute"
  | name => "ident"
  | equals => "`=`"
  | text => "string literal"
  | comma => "`,`"

/-- Why nothing can be derived. -/
inductive DeriveError where
  | unknownTypeAttribute
  | unknownFieldAttribute
  /-- A setting lacks something where something else stands. -/
  | lacks (lack : Lack)
  /-- A setting lacks something where its attribute ends. -/
  | endsBefore (lack : Lack)
  /-- A setting has a literal for its name. -/
  | literalSetting
  /-- A setting has something else than a name for its name. -/
  | namelessSetting
  | emptyName (role : NameRole)
  | malformedName (role : NameRole)
  | qualifiedColumn
  | blankKey
  | missingTable
  | unnamedFields
  | notAStructure
  | repeatedDescriptor (constant : String)
  /-- No constant can have the name that the field gives it. -/
  | unnameable (constant : String)
  | genericEnumeration
  | notAnEnumeration
  | noVariants
  | variantData
deriving DecidableEq, Repr

/-- The error in words. -/
def DeriveError.message : DeriveError → String
  | unknownTypeAttribute => "unsupported struct attribute, expected `table`"
  | unknownFieldAttribute =>
    "unsupported field attribute, expected `column`, `name` or `skip`"
  | lacks lack => "expected " ++ lack.words
  | endsBefore lack => "unexpected end of input, expected " ++ lack.words
  | literalSetting => "unexpected literal in nested attribute, expected ident"
  | namelessSetting => "unexpected token in nested attribute, expected ident"
  | emptyName role => role.text ++ " must not be empty"
  | malformedName role =>
    role.text ++ " must be a valid SQL identifier (expected [A-Za-z_][A-Za-z0-9_]*)"
  | qualifiedColumn => "column must not be qualified"
  | blankKey => "name must not be empty"
  | missingTable => "Model requires #[orm(table = \"table_name\")] attribute"
  | unnamedFields => "Model can only be derived for structs with named fields"
  | notAStructure => "Model can only be derived for structs"
  | repeatedDescriptor constant =>
    "field descriptor `" ++ constant ++ "` is generated twice"
  | unnameable constant => "`" ++ constant ++ "` cannot be the name of a constant"
  | genericEnumeration => "ValueEnum does not support generic enums"
  | notAnEnumeration => "ValueEnum can only be derived for enums"
  | noVariants => "ValueEnum requires at least one variant"
  | variantData => "ValueEnum variants must not carry data"

/-! ## Names -/

/-- Whether the characters are a letter or `_` and then letters, digits and `_`. -/
def isPlainName : List Char → Bool
  | [] => false
  | c :: cs => Ident.isBareStart c && cs.all fun d => d = '_' || d.isAlphanum

/-- Whether a text is one plain name or several with dots between them. -/
def isDottedName (cs : List Char) : Bool := (Text.piecesAt '.' cs).all isPlainName

/-- The name that a text spells, without blanks at its ends. -/
def readName (role : NameRole) (s : String) : Except DeriveError String :=
  let name := Text.trimChars s.toList
  if name.isEmpty then .error (.emptyName role)
  else if isDottedName name then .ok (String.ofList name)
  else .error (.malformedName role)

/-! ## Settings -/

/-- Whether tokens start with a literal: a number may have a minus sign. -/
def startsWithLiteral : List Token → Bool
  | .literal _ :: _ | .text .. :: _ | .mark '-' :: .literal _ :: _ => true
  | _ => false

/-- What follows the names behind the first one of a path, each with two colons in front, and
    whether there are such names. -/
def dropSegments : List Token → Except DeriveError (Bool × List Token)
  | .mark ':' :: .mark ':' :: .word _ :: rest => do
    let (_, rest) ← dropSegments rest
    .ok (true, rest)
  | [.mark ':', .mark ':'] => .error (.endsBefore .name)
  | .mark ':' :: .mark ':' :: _ => .error (.lacks .name)
  | rest => .ok (false, rest)

/-- The name of the setting at the front of tokens, none for a path, and what follows it. -/
def readSetting : List Token → Except DeriveError (Option String × List Token)
  | .word name :: rest => do
    let (isPath, rest) ← dropSegments rest
    .ok (if isPath then none else some name, rest)
  | .mark ':' :: .mark ':' :: .word _ :: rest => do
    let (_, rest) ← dropSegments rest
    .ok (none, rest)
  | [.mark ':', .mark ':'] => .error (.endsBefore .setting)
  | .mark ':' :: .mark ':' :: ts | ts =>
    .error (if startsWithLiteral ts then .literalSetting else .namelessSetting)

/-- The text that a setting gets, and what follows it. -/
def readText : List Token → Except DeriveError (String × List Token)
  | .mark '=' :: .text _ value :: rest => .ok (value, rest)
  | [.mark '='] => .error (.endsBefore .text)
  | .mark '=' :: _ => .error (.lacks .text)
  | _ => .error (.lacks .equals)

/-- Carry out at most `fuel` settings one after the other.  A setting is carried out by
    `next`, given its name and the tokens behind it, which leaves the tokens that it has no use
    for. -/
def readSettings {α : Type}
    (next : α → Option String → List Token → Except DeriveError (α × List Token)) :
    Nat → α → List Token → Except DeriveError α
  | 0, a, _ => .ok a
  | _, a, [] => .ok a
  | fuel + 1, a, t :: ts => do
    let (name, rest) ← readSetting (t :: ts)
    let (a, rest) ← next a name rest
    match rest with
    | [] => .ok a
    | .mark ',' :: rest => readSettings next fuel a rest
    | _ => .error (.lacks .comma)

/-- Carry out the settings of an attribute one after the other. -/
def Attribute.settings {α : Type}
    (next : α → Option String → List Token → Except DeriveError (α × List Token)) (a : α)
    (source : Attribute) : Except DeriveError α :=
  readSettings next source.tokens.length a source.tokens

end SqlAssembly.Derive
