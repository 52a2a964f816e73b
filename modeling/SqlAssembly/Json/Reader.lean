import SqlAssembly.Json.Number

/-! # Reading JSON text

The grammar is the strict one: no trailing commas, no raw control characters in strings, no lone
surrogates, and values nested at most `maxDepth - 1` deep.

* `Json.read?`   the value of a text, with sorted fields -/

namespace SqlAssembly.Json

/-- One more than the depth to which arrays and objects may nest. -/
def maxDepth : Nat := 128

/-- Whether the character may stand between tokens. -/
def isSpace (c : Char) : Bool := c = ' ' || c = '\n' || c = '\t' || c = '\r'

/-- The text from the first token on. -/
def skipSpace (cs : List Char) : List Char := cs.dropWhile isSpace

/-- The number that four hexadecimal digits at the front of a text spell. -/
def readHex4? : List Char → Option (Nat × List Char)
  | a :: b :: c :: d :: rest => (Numeral.read? 16 [a, b, c, d]).map (·, rest)
  | _ => none

/-- The character that an escape stands for, given the text behind its `u`. -/
def readUnicode? (cs : List Char) : Option (Char × List Char) := do
  let (unit, rest) ← readHex4? cs
  -- A low surrogate is valid only as the second of a pair.
  if 0xDC00 ≤ unit ∧ unit ≤ 0xDFFF then none
  else if 0xD800 ≤ unit ∧ unit ≤ 0xDBFF then
    match rest with
    | '\\' :: 'u' :: more =>
      let (second, rest) ← readHex4? more
      if 0xDC00 ≤ second ∧ second ≤ 0xDFFF then
        some (Char.ofNat (0x10000 + (unit - 0xD800) * 0x400 + (second - 0xDC00)), rest)
      else none
    | _ => none
  else some (Char.ofNat unit, rest)

/-- The character that an escape stands for, given the text behind its backslash. -/
def readEscape? : List Char → Option (Char × List Char)
  | '"' :: cs => some ('"', cs)
  | '\\' :: cs => some ('\\', cs)
  | '/' :: cs => some ('/', cs)
  | 'b' :: cs => some (Char.ofNat 8, cs)
  | 'f' :: cs => some (Char.ofNat 12, cs)
  | 'n' :: cs => some ('\n', cs)
  | 'r' :: cs => some ('\r', cs)
  | 't' :: cs => some ('\t', cs)
  | 'u' :: cs => readUnicode? cs
  | _ => none

/-- The characters up to the closing quote, and the text behind it.  `fuel` bounds the number of
    characters. -/
def readString? : Nat → List Char → Option (List Char × List Char)
  | 0, _ => none
  | _ + 1, [] => none
  | fuel + 1, c :: cs =>
    if c = '"' then some ([], cs)
    else if c = '\\' then do
      let (d, rest) ← readEscape? cs
      let (ds, rest) ← readString? fuel rest
      some (d :: ds, rest)
    else if c.toNat < 32 then none
    else do
      let (ds, rest) ← readString? fuel cs
      some (c :: ds, rest)

mutual

/-- The value at the front of a text, and what follows it.  `fuel` bounds the length of the text
    and `depth` the nesting. -/
def readValue? : Nat → Nat → List Char → Option (Json × List Char)
  | 0, _, _ => none
  | fuel + 1, depth, cs =>
    match skipSpace cs with
    | 'n' :: 'u' :: 'l' :: 'l' :: rest => some (null, rest)
    | 't' :: 'r' :: 'u' :: 'e' :: rest => some (bool true, rest)
    | 'f' :: 'a' :: 'l' :: 's' :: 'e' :: rest => some (bool false, rest)
    | '"' :: rest => do
      let (s, rest) ← readString? fuel rest
      some (string (String.ofList s), rest)
    | '[' :: rest =>
      if depth ≤ 1 then none
      else
        match skipSpace rest with
        | ']' :: rest => some (array [], rest)
        | rest => do
          let (items, rest) ← readItems? fuel (depth - 1) rest
          some (array items, rest)
    | '\x7b' :: rest =>
      if depth ≤ 1 then none
      else
        match skipSpace rest with
        | '\x7d' :: rest => some (object [], rest)
        | rest => do
          let (fields, rest) ← readFields? fuel (depth - 1) rest
          some (object fields, rest)
    | rest => readNumber? rest

/-- The values of an array up to its closing bracket. -/
def readItems? : Nat → Nat → List Char → Option (List Json × List Char)
  | 0, _, _ => none
  | fuel + 1, depth, cs => do
    let (v, rest) ← readValue? fuel depth cs
    match skipSpace rest with
    | ',' :: rest =>
      let (vs, rest) ← readItems? fuel depth rest
      some (v :: vs, rest)
    | ']' :: rest => some ([v], rest)
    | _ => none

/-- The fields of an object up to its closing brace. -/
def readFields? : Nat → Nat → List Char → Option (List (String × Json) × List Char)
  | 0, _, _ => none
  | fuel + 1, depth, cs =>
    match skipSpace cs with
    | '"' :: rest => do
      let (name, rest) ← readString? fuel rest
      match skipSpace rest with
      | ':' :: rest =>
        let (v, rest) ← readValue? fuel depth rest
        match skipSpace rest with
        | ',' :: rest =>
          let (fs, rest) ← readFields? fuel depth rest
          some ((String.ofList name, v) :: fs, rest)
        | '\x7d' :: rest => some ([(String.ofList name, v)], rest)
        | _ => none
      | _ => none
    | _ => none

end

/-- The value of a text; of several fields of one name the last one counts. -/
def read? (s : String) : Option Json :=
  let cs := s.toList
  -- An array takes a step for itself and one for each element, which has a character at least.
  match readValue? (2 * cs.length + 2) maxDepth cs with
  | some (v, rest) => if (skipSpace rest).isEmpty then some v.normalize else none
  | none => none

end SqlAssembly.Json
