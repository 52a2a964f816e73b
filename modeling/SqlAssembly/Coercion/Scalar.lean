import SqlAssembly.Value.Basic
import SqlAssembly.Calendar.Layout
import SqlAssembly.Number.Decimal
import SqlAssembly.Text.Ascii

/-! # Coercion to scalars

What a value is worth as an integer, a float, a truth value, a text or a moment.  Text is read,
never rounded; numbers are rounded to the nearest integer, a tie going to the even one, and cut to
the bounds of the width.

* `Value.int?`, `Value.binary64?`, `Value.binary32?`, `Value.bool?`, `Value.string?`,
  `Value.moment?`   the coercions
* `Value.textOr`    the text of a value, or a default -/

namespace SqlAssembly.Value

/-- A value other than a text as an integer of 64 bits. -/
def integer? : Value → Option Int
  | bool b => some (if b then 1 else 0)
  | int16 n => some n.val
  | int32 n => some n.val
  | int64 n => some n.val
  | float32 x => x.toInt? IntWidth.int64.lo IntWidth.int64.hi
  | float64 x => x.toInt? IntWidth.int64.lo IntWidth.int64.hi
  | _ => none

/-- A value as an integer of width `w`: a text must spell one in range, a number is cut to the
    range. -/
def int? (w : IntWidth) : Value → Option w.Carrier
  | text s => w.read? 10 (Text.trimChars s.toList)
  | v => v.integer?.map w.saturate

/-- A value as a double. -/
def binary64? : Value → Option Binary64
  | bool b => some (Binary.ofInt .binary64 (if b then 1 else 0))
  | int16 n => some (Binary.ofInt .binary64 n.val)
  | int32 n => some (Binary.ofInt .binary64 n.val)
  | int64 n => some (Binary.ofInt .binary64 n.val)
  | float32 x => some (x.convert .binary64)
  | float64 x => some x
  | text s => Binary.read? .binary64 (Text.trimChars s.toList)
  | _ => none

/-- A value as a single, cut to the finite range if it is not one already. -/
def binary32? : Value → Option Binary32
  | float32 x => some x
  -- A double beyond the range is cut, an infinite one as well.
  | v => v.binary64?.map fun x => (x.convert .binary32).saturate

/-- A value as a truth value: `true`, `false`, `1` and `0` as texts, else whether a number is other
    than nought. -/
def bool? : Value → Option Bool
  | bool b => some b
  | text s =>
    let t := Text.trim s
    if Text.equalUpToCase t "true" || t = "1" then some true
    else if Text.equalUpToCase t "false" || t = "0" then some false
    else none
  | v => v.binary64?.bind fun x => if x.isNaN then none else some !x.isZero

/-- A value as a text; null, arrays and objects have none. -/
def string? : Value → Option String
  | null | array _ | object _ => none
  | v => some v.display

/-- A value as a moment. -/
def moment? : Value → Option Moment
  | moment m => some m
  | text s => Moment.read? s
  | _ => none

/-- The text of a value.  The default stands in for a value without one and, where `refuseBlank`
    is set, for a blank text. -/
def textOr (v : Value) (default : String) (refuseBlank : Bool) : String :=
  match v.string? with
  | some s => if refuseBlank && (Text.trimChars s.toList).isEmpty then default else s
  | none => default

end SqlAssembly.Value
