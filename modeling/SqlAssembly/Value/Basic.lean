import SqlAssembly.Calendar.Text
import SqlAssembly.Json.Printer

/-! # Loosely typed values

The values that a request carries and that parameters are bound to.

* `Value`              the values
* `Value.ofJson`       the value of a JSON value; an object stays one as a whole
* `Value.toJson`       the JSON value of a value; a float that is not finite becomes null
* `Value.display`      the text of a value, strings as they are
* `Value.serialized`   the JSON text of a value, moments with `Z` for no offset
* `Value.roundTrip`    the value with its moments as texts -/

namespace SqlAssembly

/-- A loosely typed value. -/
inductive Value where
  | null
  | bool (b : Bool)
  | int16 (n : IntWidth.int16.Carrier)
  | int32 (n : IntWidth.int32.Carrier)
  | int64 (n : IntWidth.int64.Carrier)
  | float32 (x : Binary32)
  | float64 (x : Binary64)
  | text (s : String)
  | moment (m : Moment)
  | array (items : List Value)
  | object (fields : Json.Fields)

namespace Value

instance : Inhabited Value := ⟨null⟩

/-- Whether there is no value. -/
def isNull : Value → Bool
  | null => true
  | _ => false

/-- Whether the value is a number. -/
def isNumeric : Value → Bool
  | int16 _ | int32 _ | int64 _ | float32 _ | float64 _ => true
  | _ => false

/-- Whether the value is an object. -/
def isObject : Value → Bool
  | object _ => true
  | _ => false

/-- The text, if the value is one. -/
def text? : Value → Option String
  | text s => some s
  | _ => none

/-- The elements, if the value is an array. -/
def items? : Value → Option (List Value)
  | array items => some items
  | _ => none

/-- The fields, if the value is an object. -/
def fields? : Value → Option Json.Fields
  | object fields => some fields
  | _ => none

/-- The word for what sort of value it is. -/
def typeName : Value → String
  | null => "null"
  | bool _ => "bool"
  | int16 _ => "i16"
  | int32 _ => "i32"
  | int64 _ => "i64"
  | float32 _ => "f32"
  | float64 _ => "f64"
  | text _ => "string"
  | moment _ => "datetime"
  | array _ => "array"
  | object _ => "object"

/-! ## JSON -/

mutual

/-- The value of a JSON value.  An integer past 64 signed bits becomes the greatest that they
    hold. -/
def ofJson : Json → Value
  | .null => null
  | .bool b => bool b
  | .integer n => int64 (IntWidth.int64.clamp n.val)
  | .real x => float64 x
  | .string s => text s
  | .array items => array (ofJsonItems items)
  | .object fields => object fields

def ofJsonItems : List Json → List Value
  | [] => []
  | j :: js => ofJson j :: ofJsonItems js

end

/-- The JSON number of an integer that 64 signed bits hold. -/
def jsonInt {lo hi : Int} (h₁ : -9223372036854775808 ≤ lo) (h₂ : hi ≤ 18446744073709551615)
    (n : Bounded lo hi) : Json :=
  .integer ⟨n.val, Int.le_trans h₁ n.lo_le, Int.le_trans n.le_hi h₂⟩

/-- The JSON number of a double, null if it is not finite. -/
def jsonReal (x : Binary64) : Json := if x.isFinite then .real x else .null

mutual

/-- The JSON value of a value. -/
def toJson : Value → Json
  | null => .null
  | bool b => .bool b
  | int16 n => jsonInt (by decide) (by decide) n
  | int32 n => jsonInt (by decide) (by decide) n
  | int64 n => jsonInt (by decide) (by decide) n
  | float32 x => jsonReal (x.convert .binary64)
  | float64 x => jsonReal x
  | text s => .string s
  | moment m => .string m.text
  | array items => .array (toJsonItems items)
  | object fields => .object fields

def toJsonItems : List Value → List Json
  | [] => []
  | v :: vs => toJson v :: toJsonItems vs

end

theorem ofJsonItems_eq_map (js : List Json) : ofJsonItems js = js.map ofJson := by
  induction js with
  | nil => simp [ofJsonItems]
  | cons j js ih => simp [ofJsonItems, ih]

theorem toJsonItems_eq_map (vs : List Value) : toJsonItems vs = vs.map toJson := by
  induction vs with
  | nil => simp [toJsonItems]
  | cons v vs ih => simp [toJsonItems, ih]

/-! ## Text -/

/-- The text of a value. -/
def display : Value → String
  | null => "null"
  | bool b => if b then "true" else "false"
  | int16 n => Json.intText n.val
  | int32 n => Json.intText n.val
  | int64 n => Json.intText n.val
  | float32 x => FloatLayout.plain.render x
  | float64 x => FloatLayout.plain.render x
  | text s => s
  | moment m => m.text
  | array items => (toJson (array items)).text
  | object fields => (toJson (object fields)).text

mutual

/-- The JSON text of a value: unlike that of its JSON value it gives single precision its own
    shortest digits and writes no offset as `Z`. -/
def serialized : Value → String
  | null => "null"
  | bool b => if b then "true" else "false"
  | int16 n => Json.intText n.val
  | int32 n => Json.intText n.val
  | int64 n => Json.intText n.val
  | float32 x => Json.realText .json32 x
  | float64 x => Json.realText .json64 x
  | text s => Json.quote s
  | moment m => Json.quote m.zuluText
  | array items => Json.bracketed (serializedItems items)
  | object fields => (Json.object fields).text

def serializedItems : List Value → List String
  | [] => []
  | v :: vs => serialized v :: serializedItems vs

end

mutual

/-- The value with each moment in it replaced by its text, inside arrays at any depth. -/
def roundTrip : Value → Value
  | moment m => text m.text
  | array items => array (roundTripItems items)
  | v => v

def roundTripItems : List Value → List Value
  | [] => []
  | v :: vs => roundTrip v :: roundTripItems vs

end

theorem roundTripItems_eq_map (vs : List Value) : roundTripItems vs = vs.map roundTrip := by
  induction vs with
  | nil => simp [roundTripItems]
  | cons v vs ih => simp [roundTripItems, ih]

/-- The texts of the values, with `separator` between them. -/
def concat (values : List Value) (separator : String) : String :=
  separator.intercalate (values.map display)

end Value

end SqlAssembly
