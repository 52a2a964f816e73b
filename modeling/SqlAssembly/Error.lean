import SqlAssembly.Ident
import SqlAssembly.Statement.Mode
import SqlAssembly.Number.Numeral

/-! # Errors

Why no statement can be rendered, an identifier cannot be read or an object not be taken over.

* `ConfigurationError`   the calls so far make no statement
* `PreconditionError`    a call or a text does not meet what it has to
* `SerializationError`   a value has no fields to take over
* `Error`                any of them; `Error.message` is its text -/

namespace SqlAssembly

/-- Why the calls so far make no statement. -/
inductive ConfigurationError where
  | noTable (mode : Mode)
  | tableCount (mode : Mode) (count : Nat)
  | noValues
  | noAssignments
deriving DecidableEq, Repr

/-- The error in words. -/
def ConfigurationError.message : ConfigurationError → String
  | noTable mode => mode.verb ++ " requires a table"
  | tableCount mode count =>
    mode.verb ++ " requires exactly one table, got " ++ String.ofList (Numeral.decimal count)
  | noValues => "INSERT requires at least one value"
  | noAssignments => "UPDATE requires at least one SET assignment"

/-- Which call could not be carried out, and why. -/
inductive Violation where
  /-- The descriptor of the field lacks its name or its column. -/
  | emptyField (call : String)
  /-- The builder has no request to look into. -/
  | noBag (call : String)
  /-- The condition is empty. -/
  | emptyCondition (call : String)
  /-- The expression is empty. -/
  | emptyExpression (call : String)
deriving DecidableEq, Repr

/-- The violation in words. -/
def Violation.message : Violation → String
  | emptyField call => call ++ ": field name is empty"
  | noBag call => call ++ ": no conditions supplied"
  | emptyCondition call => call ++ ": condition is empty"
  | emptyExpression call => call ++ ": field expression is empty"

/-- What a call or a text does not meet. -/
inductive PreconditionError where
  | identifier (text : String) (fault : Ident.Fault)
  | violation (v : Violation)
deriving DecidableEq, Repr

/-- The error in words. -/
def PreconditionError.message : PreconditionError → String
  | identifier text fault => "invalid identifier `" ++ text ++ "`: " ++ fault.reason
  | violation v => v.message

/-- Why a value has no fields to take over. -/
inductive SerializationError where
  | notAnObject (kind : String)
  | argumentsNotAnObject (condition : String)
  | keyNotAString
deriving DecidableEq, Repr

/-- The error in words. -/
def SerializationError.message : SerializationError → String
  | notAnObject kind => "expected an object, got " ++ kind
  | argumentsNotAnObject condition =>
    "WHERE arguments for `" ++ condition ++ "` must serialize to an object"
  | keyNotAString => "key must be a string"

/-- Any of the errors. -/
inductive Error where
  | configuration (e : ConfigurationError)
  | precondition (e : PreconditionError)
  | serialization (e : SerializationError)
deriving DecidableEq, Repr

namespace Error

/-- The word for what sort of error it is. -/
def kind : Error → String
  | configuration _ => "Configuration"
  | precondition _ => "Precondition"
  | serialization _ => "Serialization"

/-- The error in words. -/
def message : Error → String
  | configuration e => "Configuration error: " ++ e.message
  | precondition e => "Precondition violated: " ++ e.message
  | serialization e => "Serialization error: " ++ e.message

end Error

end SqlAssembly
