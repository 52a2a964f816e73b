import SqlAssembly.Coercion.FieldType
import SqlAssembly.Error
import SqlAssembly.Text.Lowercase

/-! # The values of a request

A bag maps names to values.  Names are compared in lower case.  Reading never fails: a value that
is absent, null or worth nothing as the type asked for gives the caller's default.

* `Bag`                 the values, sorted by their names in lower case
* `Bag.exchange`, `Bag.insert`, `Bag.take`   changing a value
* `Bag.value?`          the value of a name
* `Bag.fetch?`          the element of a type that the value is worth
* `Bag.isContains`      whether there is such an element, of the length asked for
* `Bag.ofSerialized`    the values of the fields of an object
* `Bag.diff`            how the values differ from the fields of an object -/

namespace SqlAssembly

/-- The values of a request, sorted by their names in lower case. -/
structure Bag where
  entries : List (String × Value)
  ascending : Entries.Ascending entries

namespace Bag

/-- The form in which a name is kept and looked up. -/
def normalize (key : String) : String := Text.lowercase key

/-! ## Changing values -/

/-- No values. -/
def empty : Bag := ⟨[], List.Pairwise.nil⟩

instance : Inhabited Bag := ⟨empty⟩

/-- The value of a name so far, and the bag with `value` in its place. -/
def exchange (b : Bag) (key : String) (value : Value) : Option Value × Bag :=
  ((Entries.put (normalize key) value b.entries).1,
    ⟨(Entries.put (normalize key) value b.entries).2, b.ascending.put⟩)

/-- The bag with `value` under a name. -/
def insert (b : Bag) (key : String) (value : Value) : Bag := (b.exchange key value).2

/-- The value of a name so far, and the bag without it. -/
def take (b : Bag) (key : String) : Option Value × Bag :=
  ((Entries.drop (normalize key) b.entries).1,
    ⟨(Entries.drop (normalize key) b.entries).2, b.ascending.drop⟩)

/-- The bag of values put in one after the other. -/
def ofList (pairs : List (String × Value)) : Bag :=
  pairs.foldl (fun b p => b.insert p.1 p.2) empty

/-! ## Reading values -/

/-- The value of a name. -/
def value? (b : Bag) (key : String) : Option Value := Entries.lookup? (normalize key) b.entries

/-- Whether the name has a value. -/
def contains (b : Bag) (key : String) : Bool := (b.value? key).isSome

/-- The number of values. -/
def size (b : Bag) : Nat := b.entries.length

/-- Whether there are no values. -/
def isEmpty (b : Bag) : Bool := b.entries.isEmpty

/-- The element of a type that the value of a name is worth; null is worth nothing. -/
def fetch? (b : Bag) (t : FieldType) (key : String) : Option t.Carrier :=
  match b.value? key with
  | none => none
  | some v => if v.isNull then none else t.coerce? v

/-- Whether the value of a name is worth an element of a type, and that element or else the
    default. -/
def parse (b : Bag) (t : FieldType) (key : String) (default : t.Carrier) : Bool × t.Carrier :=
  match b.value? key with
  | none => (false, default)
  | some v => t.parse v default

/-- The element of a type that the value of a name is worth, or else the default. -/
def get (b : Bag) (t : FieldType) (key : String) (default : t.Carrier) : t.Carrier :=
  (b.parse t key default).2

/-- The list of elements of a type that the value of a name is worth. -/
def getArray? (b : Bag) (t : FieldType) (key : String) : Option (List t.Carrier) :=
  b.fetch? (.list t) key

/-- Whether a length is the one asked for: exactly `expected` from nought on, any but nought for
    -1, and any at all below that. -/
def lengthMatches (length : Nat) (expected : Int) : Bool :=
  if expected < -1 then true
  else if expected = -1 then 0 < length
  else (length : Int) = expected

/-- Whether a name has a value that says something: a text that is not empty, an array of the
    length asked for, or anything else but null. -/
def isRequired (b : Bag) (key : String) (expected : Int) : Bool :=
  match b.value? key with
  | none | some .null => false
  | some (.text s) => s ≠ ""
  | some (.array items) => lengthMatches items.length expected
  | some _ => true

/-- Whether the value of a name is worth an element of a type and, where that is a sequence, has
    the length asked for. -/
def isContains (b : Bag) (t : FieldType) (key : String) (expected : Int) : Bool :=
  match b.fetch? t key with
  | some x => (t.seqLength? x).all fun length => lengthMatches length expected
  | none => false

/-- Whether the value of a name is worth an element of a type of which `p` holds. -/
def isContainsWith (b : Bag) (t : FieldType) (key : String) (p : t.Carrier → Bool) : Bool :=
  (b.fetch? t key).any p

/-! ## Order and page -/

/-- The name of the column that rows are ordered by. -/
def orderByKey : String := "OrderBy"

/-- The name of the flag for ascending order. -/
def ascendingKey : String := "ASC"

/-- The name of the index of a page. -/
def pageIndexKey : String := "PageIndex"

/-- The name of the number of rows of a page. -/
def pageSizeKey : String := "PageSize"

/-- The bag with an order, unless it has one already. -/
def orderBy (b : Bag) (column : String) (isAscending : Bool) : Bag :=
  -- An empty text is an order already; null is none.
  if b.isContains .text orderByKey (-1) then b
  else (b.insert orderByKey (.text column)).insert ascendingKey (.bool isAscending)

/-- The index of the page, 1 if there is none. -/
def pageIndex (b : Bag) : IntWidth.int32.Carrier :=
  b.get (.int .int32) pageIndexKey (IntWidth.int32.clamp 1)

/-- The number of rows of a page, 20 if there is none. -/
def pageSize (b : Bag) : IntWidth.int32.Carrier :=
  b.get (.int .int32) pageSizeKey (IntWidth.int32.clamp 20)

/-! ## Objects -/

/-- Whether the JSON value is a number or a string. -/
def isPlain : Json → Bool
  | .integer _ | .real _ | .string _ => true
  | _ => false

/-- The bag of the numbers and strings among the fields of an object, and of the fields that are
    required, in letters of either case. -/
def ofFields (fields : Json.Fields) (required : List String) : Bag :=
  ofList ((fields.filter fun f =>
    required.any (Text.equalUpToCase · f.1) || isPlain f.2).map fun f => (f.1, .ofJson f.2))

/-- The bag of the object that `source` is serialized to. -/
def ofSerialized (source : Except SerializationError Json) (required : List String) :
    Except SerializationError Bag :=
  match source with
  | .ok (.object fields) => .ok (ofFields fields required)
  | .ok other => .error (.notAnObject other.kind)
  | .error e => .error e

/-- The text of a value in a list of differences; null and the empty text have a mark. -/
def displayOrMark : Value → String
  | .null => "<NULL>"
  | .text s => if s = "" then "<NULL>" else s
  | v => v.display

/-- The line of a field whose value in the bag differs, nothing for another. -/
def diffLine (b : Bag) (name : String) (current : Json) : String :=
  match b.value? name with
  | none | some .null => ""
  | some incoming =>
    -- What counts is the text: the number 1 does not differ from the text `1`.
    let old := displayOrMark (.ofJson current)
    let new := displayOrMark incoming
    if old = new then "" else name ++ " : " ++ old ++ " -> " ++ new ++ "\n"

/-- How the values differ from the fields of the object that `source` is serialized to, a line for
    each field. -/
def diff (b : Bag) (source : Except SerializationError Json) : String :=
  match source with
  | .ok (.object fields) => String.join (fields.map fun f => b.diffLine f.1 f.2)
  | _ => ""

end Bag

end SqlAssembly
