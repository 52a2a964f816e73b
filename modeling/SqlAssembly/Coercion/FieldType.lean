import SqlAssembly.Coercion.Scalar
import SqlAssembly.Comparison
import SqlAssembly.Enumeration

/-! # The types that a field can have

A field's type says what a value in a request has to be worth to count.

* `FieldType`            the types, closed under lists and options
* `FieldType.Carrier`    what the elements of a type are
* `FieldType.coerce?`    the element that a value is worth
* `FieldType.embed`      the value of an element
* `FieldType.seqLength?` the length of an element that is a sequence
* `FieldType.parse`      coercion with a default, which null always gets -/

namespace SqlAssembly

/-- Two bounds, read from an object with the fields `from` and `to` or from an array of two. -/
structure Span where
  lower : IntWidth.int32.Carrier
  upper : IntWidth.int32.Carrier
deriving DecidableEq

namespace Span

/-- The bounds that a JSON value spells.  Other fields of an object do not count, and no number is
    converted. -/
def ofJson? : Json → Option Span
  | .object fields => do
    let lower ← (Json.field? "from" fields).bind (Json.int? .int32)
    let upper ← (Json.field? "to" fields).bind (Json.int? .int32)
    some ⟨lower, upper⟩
  | .array [a, b] => do
    let lower ← a.int? .int32
    let upper ← b.int? .int32
    some ⟨lower, upper⟩
  | _ => none

/-- The JSON object of the bounds. -/
def toJson (s : Span) : Json :=
  .object [("from", Value.jsonInt (IntWidth.int64_lo_le _) (IntWidth.hi_le_uint64 _) s.lower),
    ("to", Value.jsonInt (IntWidth.int64_lo_le _) (IntWidth.hi_le_uint64 _) s.upper)]

end Span

/-- The type of a field. -/
inductive FieldType where
  | int (w : IntWidth)
  | binary32
  | binary64
  | bool
  | text
  | moment
  | utcMoment
  | clock
  | date
  | value
  | json
  | comparison
  | enumeration (e : Enumeration)
  | span
  | list (element : FieldType)
  | option (element : FieldType)
deriving DecidableEq

namespace FieldType

/-- What the elements of a type are. -/
def Carrier : FieldType → Type
  | int w => w.Carrier
  | binary32 => Binary32
  | binary64 => Binary64
  | bool => Bool
  | text => String
  | moment => Moment
  | utcMoment => UtcMoment
  | clock => Clock
  | date => Date
  | value => Value
  | json => Json
  | comparison => Comparison
  | enumeration e => e.Carrier
  | span => Span
  | list t => List t.Carrier
  | option t => Option t.Carrier

/-- The element of the type that a value is worth.  A list is worth one only if each of its
    elements is. -/
def coerce? : (t : FieldType) → Value → Option t.Carrier
  | int w, v => v.int? w
  | binary32, v => v.binary32?
  | binary64, v => v.binary64?
  | bool, v => v.bool?
  | text, v => v.string?
  | moment, v => v.moment?
  | utcMoment, v => v.moment?.map Moment.toUtc
  | clock, v => v.moment?.map Moment.clock
  | date, v => v.moment?.map fun m => m.clock.date
  | value, v => some v
  | json, v => some v.toJson
  | comparison, v => Comparison.ofValue? v
  | enumeration e, v => e.ofValue? v
  | span, v => Span.ofJson? v.toJson
  | list t, v => v.items?.bind fun items => items.mapM (coerce? t)
  | option t, v => (coerce? t v).map some

/-- The value of an element. -/
def embed : (t : FieldType) → t.Carrier → Value
  -- Each integer goes to the narrowest kind of value that holds its width, or to the widest.
  | int .int8, n => .int16 (IntWidth.int16.clamp n.val)
  | int .uint8, n => .int16 (IntWidth.int16.clamp n.val)
  | int .int16, n => .int16 n
  | int .uint16, n => .int32 (IntWidth.int32.clamp n.val)
  | int .int32, n => .int32 n
  | int _, n => .int64 (IntWidth.int64.clamp n.val)
  | binary32, x => .float32 x
  | binary64, x => .float64 x
  | bool, b => .bool b
  | text, s => .text s
  | moment, m => .moment m
  | utcMoment, u => .moment u.moment
  | clock, c => .moment c.atUtc
  | date, d => .moment (Clock.midnight d).atUtc
  | value, v => v
  | json, j => .ofJson j
  | comparison, c => c.toValue
  | enumeration e, i => e.toValue i
  | span, s => .ofJson s.toJson
  | list t, xs => .array (xs.map (embed t))
  | option _, none => .null
  | option t, some x => embed t x

/-- The length of an element that is a sequence. -/
def seqLength? : (t : FieldType) → t.Carrier → Option Nat
  | list _, xs => some (List.length xs)
  | option t, x => Option.bind x (seqLength? t)
  | value, v => v.items?.map List.length
  | json, .array items => some items.length
  | _, _ => none

/-- Whether a value is worth an element of the type, and that element or else the default.  Null
    is worth nothing. -/
def parse (t : FieldType) (v : Value) (default : t.Carrier) : Bool × t.Carrier :=
  if v.isNull then (false, default)
  else
    match t.coerce? v with
    | some x => (true, x)
    | none => (false, default)

end FieldType

end SqlAssembly
