import SqlAssembly.Value.Basic
import SqlAssembly.Text.Ascii
import SqlAssembly.Text.Blank

/-! # Enumerations

A type of finitely many variants, each with a label and a code.  A value chooses a variant by its
label or by its code; a variant's value is its code, cut to 32 bits.

* `Enumeration`            the variants in order
* `Enumeration.ofCode?`    the first variant with a code
* `Enumeration.ofText?`    the variant that a text chooses
* `Enumeration.ofValue?`   the variant that a value chooses
* `Enumeration.toValue`    the value of a variant -/

namespace SqlAssembly

/-- A variant of an enumeration. -/
structure Variant where
  label : String
  code : Int
deriving DecidableEq, Repr

/-- An enumeration: its variants in order. -/
structure Enumeration where
  variants : List Variant
deriving DecidableEq, Repr

namespace Enumeration

/-- The variants of an enumeration, by their places. -/
abbrev Carrier (e : Enumeration) : Type := Fin e.variants.length

/-- The variant at a place. -/
def variant (e : Enumeration) (i : e.Carrier) : Variant := e.variants[i]

/-- The first variant of which `p` holds. -/
def first? (e : Enumeration) (p : Variant → Bool) : Option e.Carrier :=
  (List.finRange e.variants.length).find? fun i => p (e.variant i)

/-- The first variant whose code, cut to 64 bits, is `n`. -/
def ofCode? (e : Enumeration) (n : Int) : Option e.Carrier :=
  e.first? fun v => (IntWidth.int64.wrap v.code).val = n

/-- The variant that a text chooses: the first one of that label in letters of either case, else
    the first one of that code.  Blanks at the ends do not count. -/
def ofText? (e : Enumeration) (s : String) : Option e.Carrier :=
  let t := Text.trim s
  match e.first? fun v => Text.equalUpToCase t v.label with
  | some i => some i
  | none => (IntWidth.int64.read? 10 t.toList).bind fun n => e.ofCode? n.val

/-- The variant that a value chooses. -/
def ofValue? (e : Enumeration) : Value → Option e.Carrier
  | .text s => e.ofText? s
  | .int16 n => e.ofCode? n.val
  | .int32 n => e.ofCode? n.val
  | .int64 n => e.ofCode? n.val
  | _ => none

/-- The value of a variant: its code, cut to 32 bits. -/
def toValue (e : Enumeration) (i : e.Carrier) : Value :=
  .int32 (IntWidth.int32.wrap (e.variant i).code)

end Enumeration

end SqlAssembly
