import SqlAssembly.Derive.Declaration
import SqlAssembly.Derive.Generics
import SqlAssembly.Derive.ValueType

/-! # Deriving models

A declared structure with named fields gives a model: its table and a descriptor for each field
that is not skipped.

* `DerivedModel`             the table and the descriptors
* `Declaration.model`        derives it, or says why that fails
* `DerivedModel.blocks`      the heads of the two blocks that hold the table and the descriptors -/

namespace SqlAssembly.Derive

/-- The descriptor of a field. -/
structure Descriptor where
  visibility : String
  /-- The name of the constant that is the descriptor. -/
  constant : String
  /-- The type of the values of the field. -/
  valueType : String
  /-- The name under which a request gives a value to the field. -/
  key : String
  column : String
deriving DecidableEq, Repr

/-- The type of the constant. -/
def Descriptor.type (d : Descriptor) : String := "::condsql::Field<Self," ++ d.valueType ++ ">"

/-- The head of a block of definitions for a declared type. -/
structure BlockHead where
  parameters : String
  /-- The interface that the block implements, if it implements one. -/
  interface : Option String
  type : String
  conditions : String
deriving DecidableEq, Repr

/-- A model derived from a declared type. -/
structure DerivedModel where
  name : String
  generics : Generics
  table : String
  descriptors : List Descriptor

namespace DerivedModel

/-- The head of a block, given the interface that it implements. -/
def block (m : DerivedModel) (interface : Option String) : BlockHead :=
  ⟨m.generics.declared, interface, m.name ++ m.generics.applied, m.generics.conditions⟩

/-- The heads of the blocks that hold the table and the descriptors. -/
def blocks (m : DerivedModel) : List BlockHead :=
  [m.block (some "::condsql::model::Model"), m.block none]

end DerivedModel

/-! ## Attributes -/

/-- The table after one more setting. -/
def setTable (_ : Option String) (name : Option String) (ts : List Token) :
    Except DeriveError (Option String × List Token) :=
  if name = some "table" then do
    let (value, rest) ← readText ts
    let table ← readName .table value
    .ok (some table, rest)
  else .error .unknownTypeAttribute

/-- The table that attributes give; the last one wins. -/
def tableOf (attributes : List Attribute) : Except DeriveError String := do
  match ← attributes.foldlM (Attribute.settings setTable) none with
  | some table => .ok table
  | none => .error .missingTable

/-- What attributes say about a field. -/
structure FieldOptions where
  column : Option String
  key : Option String
  isSkipped : Bool
deriving DecidableEq, Repr

/-- The column that a text spells: one plain name. -/
def readColumn (s : String) : Except DeriveError String := do
  let column ← readName .column s
  if column.toList.contains '.' then .error .qualifiedColumn else .ok column

/-- The options after one more setting. -/
def setOption (o : FieldOptions) (name : Option String) (ts : List Token) :
    Except DeriveError (FieldOptions × List Token) :=
  if name = some "column" then do
    let (value, rest) ← readText ts
    let column ← readColumn value
    .ok ({ o with column := some column }, rest)
  else if name = some "name" then do
    let (value, rest) ← readText ts
    if (Text.trimChars value.toList).isEmpty then .error .blankKey
    else .ok ({ o with key := some value }, rest)
  else if name = some "skip" then .ok ({ o with isSkipped := true }, ts)
  else .error .unknownFieldAttribute

/-- The options that attributes give. -/
def optionsOf (attributes : List Attribute) : Except DeriveError FieldOptions :=
  attributes.foldlM (Attribute.settings setOption) ⟨none, none, false⟩

/-! ## Descriptors -/

/-- The descriptor of a field, given its options and the descriptors in front of it. -/
def describe (before : List Descriptor) (f : DeclaredField) (o : FieldOptions) :
    Except DeriveError Descriptor := do
  let name := unraw f.name
  let column ←
    match o.column with
    | some column => .ok column
    | none => readName .column name
  let constant := constantName name
  -- Two names may differ only in what their constants do not show.
  if before.any (·.constant = constant) then .error (.repeatedDescriptor constant)
  else if isNameable constant then
    let value := Tree.text (Tree.valueType (Tree.ofString .type f.type))
    let visibility := Tree.text (Tree.dropAttributes (Tree.ofString .copied f.visibility))
    .ok ⟨visibility, constant, value, o.key.getD name, column⟩
  else .error (.unnameable constant)

/-- The descriptors after one more field. -/
def addField (before : List Descriptor) (f : DeclaredField) :
    Except DeriveError (List Descriptor) := do
  let options ← optionsOf f.attributes
  if options.isSkipped then .ok before
  else
    let descriptor ← describe before f options
    .ok (before ++ [descriptor])

/-- The model of a declared type. -/
def Declaration.model (d : Declaration) : Except DeriveError DerivedModel := do
  let table ← tableOf d.attributes
  match d.shape with
  | .named fields =>
    let descriptors ← fields.foldlM addField []
    .ok ⟨d.name, .ofString d.generics, table, descriptors⟩
  | .tuple | .unit => .error .unnamedFields
  | .union | .variants _ => .error .notAStructure

end SqlAssembly.Derive
