import SqlAssembly.Json.Basic
import SqlAssembly.Number.Layout

/-! # JSON text

The compact text of a JSON value: no spaces, the fewest escapes, doubles by `FloatLayout.json64`.

* `Json.quote`  a string in quotes
* `Json.text`   the text of a value -/

namespace SqlAssembly.Json

/-- The escaped form of a character inside quotes. -/
def escapeChar (c : Char) : List Char :=
  if c = '"' then ['\\', '"']
  else if c = '\\' then ['\\', '\\']
  else if c = '\n' then ['\\', 'n']
  else if c = '\r' then ['\\', 'r']
  else if c = '\t' then ['\\', 't']
  else if c.toNat = 8 then ['\\', 'b']
  else if c.toNat = 12 then ['\\', 'f']
  else if c.toNat < 32 then
    ['\\', 'u', '0', '0', Numeral.digitChar (c.toNat / 16), Numeral.digitChar (c.toNat % 16)]
  else [c]

/-- The string in quotes. -/
def quote (s : String) : String := String.ofList ('"' :: s.toList.flatMap escapeChar ++ ['"'])

/-- The text of a double; what is not finite has none and is written as null. -/
def realText (l : FloatLayout) {fmt : BinaryFormat} (x : Binary fmt) : String :=
  if x.isFinite then l.render x else "null"

/-- Texts of values between brackets. -/
def bracketed (parts : List String) : String := "[" ++ ",".intercalate parts ++ "]"

/-- Texts of fields between braces. -/
def braced (parts : List String) : String := "\x7b" ++ ",".intercalate parts ++ "\x7d"

/-- The text of a field whose value has the text `value`. -/
def fieldText (name value : String) : String := quote name ++ ":" ++ value

/-- The decimal text of an integer. -/
def intText (n : Int) : String := String.ofList (Numeral.decimalInt n)

mutual

/-- The compact text of a value. -/
def text : Json → String
  | null => "null"
  | bool b => if b then "true" else "false"
  | integer n => intText n.val
  | real x => realText .json64 x
  | string s => quote s
  | array items => bracketed (itemTexts items)
  | object fields => braced (fieldTexts fields)

def itemTexts : List Json → List String
  | [] => []
  | v :: vs => text v :: itemTexts vs

def fieldTexts : List (String × Json) → List String
  | [] => []
  | (n, v) :: fs => fieldText n (text v) :: fieldTexts fs

end

end SqlAssembly.Json
