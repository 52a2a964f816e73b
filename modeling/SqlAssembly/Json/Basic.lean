import SqlAssembly.Number.Width
import SqlAssembly.Number.Binary
import SqlAssembly.Entries

/-! # JSON values

A number is an integer of 64 bits, signed or unsigned, or a double.  The fields of an object are
in ascending order of their names, each name once; `Json.normalize` makes it so.

* `Json`             the values
* `Json.normalize`   the value with sorted fields
* `Json.field?`      the value of a field
* `Json.kind`        the word for what sort of value it is -/

namespace SqlAssembly

/-- The integers that a JSON number keeps exactly: those of 64 bits, signed or unsigned. -/
abbrev JsonInt : Type := Bounded (-9223372036854775808) 18446744073709551615

/-- A JSON value. -/
inductive Json where
  | null
  | bool (b : Bool)
  | integer (n : JsonInt)
  | real (x : Binary64)
  | string (s : String)
  | array (items : List Json)
  | object (fields : List (String × Json))

namespace Json

/-- The fields of an object. -/
abbrev Fields : Type := List (String × Json)

/-- The fields in ascending order of their names; of several fields of one name the last stays. -/
def sortFields (fields : Fields) : Fields :=
  fields.foldl (fun sorted f => (Entries.put f.1 f.2 sorted).2) []

/-- The value of the first field of that name. -/
def field? (name : String) (fields : Fields) : Option Json := Entries.lookup? name fields

mutual

/-- The value with the fields of all its objects sorted, at any depth. -/
def normalize : Json → Json
  | array items => array (normalizeItems items)
  | object fields => object (sortFields (normalizeFields fields))
  | v => v

def normalizeItems : List Json → List Json
  | [] => []
  | v :: vs => normalize v :: normalizeItems vs

def normalizeFields : List (String × Json) → List (String × Json)
  | [] => []
  | (n, v) :: fs => (n, normalize v) :: normalizeFields fs

end

/-- The word for what sort of value it is. -/
def kind : Json → String
  | null => "null"
  | bool _ => "bool"
  | integer _ => "number"
  | real _ => "number"
  | string _ => "string"
  | array _ => "array"
  | object _ => "object"

/-- An integer between the bounds of a width, if the value is one. -/
def int? (w : IntWidth) : Json → Option w.Carrier
  | integer n => w.ofInt? n.val
  | _ => none

end Json

end SqlAssembly
