import SqlAssembly.Coercion.FieldType
import SqlAssembly.Text.Literal

/-! # Models and fields

* `Model`              an entity, by its table
* `Field`              one of its fields: the name in a request, the column, the type of its
                       values and perhaps an alias of the table
* `Field.qualifier`    what the column is qualified by
* `Field.qualified`    the qualified column
* `Field.report`       the field as a report shows it -/

namespace SqlAssembly

/-- An entity kept in a table. -/
structure Model where
  table : String
deriving DecidableEq

/-- A field of an entity. -/
structure Field where
  model : Model
  /-- The name under which a request gives a value to the field. -/
  name : String
  column : String
  type : FieldType
  /-- The alias of the table; an empty alias is not the same as none. -/
  tableAlias : Option String
deriving DecidableEq

namespace Field

/-- A field without an alias. -/
def new (model : Model) (name column : String) (type : FieldType) : Field :=
  ⟨model, name, column, type, none⟩

/-- The same field under an alias of its table. -/
def withAlias (f : Field) (aliasName : String) : Field := { f with tableAlias := some aliasName }

/-- The alias, or else the table. -/
def qualifier (f : Field) : String := f.tableAlias.getD f.model.table

/-- The column behind its qualifier. -/
def qualified (f : Field) : String := f.qualifier ++ "." ++ f.column

/-- Whether the name or the column is missing. -/
def isIncomplete (f : Field) : Bool := f.name = "" || f.column = ""

/-- The alias as a report shows it. -/
def aliasReport : Option String → String
  | some aliasName => "Some(" ++ Text.literal aliasName ++ ")"
  | none => "None"

/-- The field as a report shows it: its name, its column and its alias. -/
def report (f : Field) : String :=
  "Field \x7b name: " ++ Text.literal f.name ++ ", column: " ++ Text.literal f.column ++
    ", alias: " ++ aliasReport f.tableAlias ++ " \x7d"

end Field

end SqlAssembly
