import SqlAssembly.Derive.Declaration
import SqlAssembly.Derive.Generics

/-! # Deriving enumerations

A declared type of variants without data gives an enumeration: three functions that read a variant
from its code, read one from a value and give the value of one.

* `DerivedEnumeration`              the variants and their labels
* `Declaration.enumeration`         derives it, or says why that fails
* `DerivedEnumeration.functions`    the functions -/

namespace SqlAssembly.Derive

/-- An enumeration derived from a declared type. -/
structure DerivedEnumeration where
  name : String
  /-- The names of the variants, in order. -/
  variants : List String
deriving DecidableEq, Repr

/-- A derived function. -/
structure DerivedFunction where
  /-- The interface that the function belongs to, if it belongs to one. -/
  interface : Option String
  name : String
  /-- The variants that the function tries, in order. -/
  variants : List String
  /-- The labels that the function compares a text with, in order. -/
  labels : List String
deriving DecidableEq, Repr

namespace DerivedEnumeration

/-- The labels of the variants. -/
def labels (e : DerivedEnumeration) : List String := e.variants.map unraw

/-- The functions: from a code, from a value and to a value. -/
def functions (e : DerivedEnumeration) : List DerivedFunction :=
  [⟨none, "__condsql_from_code", e.variants, []⟩,
    ⟨some "::condsql::FromValue", "from_value", e.variants, e.labels⟩,
    ⟨some ("::core::convert::From<" ++ e.name ++ ">"), "from", [], []⟩]

end DerivedEnumeration

/-- The enumeration of a declared type. -/
def Declaration.enumeration (d : Declaration) : Except DeriveError DerivedEnumeration :=
  if !(Generics.ofString d.generics).parameters.isEmpty then .error .genericEnumeration
  else
    match d.shape with
    | .variants [] => .error .noVariants
    | .variants variants =>
      if variants.any (·.hasData) then .error .variantData
      else .ok ⟨d.name, variants.map (·.name)⟩
    | _ => .error .notAnEnumeration

end SqlAssembly.Derive
