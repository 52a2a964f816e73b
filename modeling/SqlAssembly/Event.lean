import SqlAssembly.Config
import SqlAssembly.Statement.Mode
import SqlAssembly.Number.Numeral

/-! # Events

What is reported while a statement is put together.  Nothing but the report depends on it.

* `Event`          the events, each with a level, a target and named fields
* `truncateBytes`  a text cut off between characters
* `logText`        the text of a statement as it is logged -/

namespace SqlAssembly

/-- The number of bytes of the UTF-8 form. -/
def byteLength : List Char → Nat
  | [] => 0
  | c :: cs => c.utf8Size + byteLength cs

/-- The last boundary between characters that has at most `limit` bytes in front of it: going back
    from there byte by byte, the first one that is met. -/
def lastBoundary (s : String) : (limit : Nat) → s.Pos
  | 0 => s.startPos
  | k + 1 => if h : String.Pos.Raw.IsValid s ⟨k + 1⟩ then ⟨⟨k + 1⟩, h⟩ else lastBoundary s k

/-- The text up to the last boundary between characters within `limit` bytes. -/
def truncateBytes (limit : Nat) (s : String) : String :=
  if byteLength s.toList ≤ limit then s else s.extract s.startPos (lastBoundary s limit)

/-- The text of a statement as it is logged: cut off and marked with dots if it is longer than the
    limit. -/
def logText (sql : String) (limit : Option Nat) : String :=
  match limit with
  | some limit => if limit < byteLength sql.toList then truncateBytes limit sql ++ "..." else sql
  | none => sql

/-- What is reported. -/
inductive Event where
  /-- A statement was rendered. -/
  | rendered (level : LogLevel) (mode : Mode) (paramCount : Nat) (sql : String)
  /-- An assignment was dropped, because no parameter name can be derived from its field. -/
  | assignmentDropped (field : String)
  /-- An argument that is no object was skipped, because the number of arguments is not that of
      the placeholders. -/
  | argumentSkipped (condition typeName : String)
  /-- The requested order was dropped, because it is no identifier. -/
  | orderDropped (requested error : String)
  /-- A call could not be carried out. -/
  | violation (table message : String)
deriving DecidableEq, Repr

namespace Event

/-- How severe the event is. -/
def level : Event → LogLevel
  | rendered level .. => level
  | assignmentDropped _ | argumentSkipped .. | orderDropped .. => .warn
  | violation .. => .debug

/-- Where the event comes from. -/
def target : Event → String
  | rendered .. => "condsql.sql"
  | assignmentDropped _ | argumentSkipped .. => "condsql::builder"
  | orderDropped .. | violation .. => "condsql::model::builder"

/-- The named fields of the event. -/
def fields : Event → List (String × String)
  | rendered _ mode paramCount sql =>
    [("mode", mode.name), ("param_count", String.ofList (Numeral.decimal paramCount)),
      ("sql", sql)]
  | assignmentDropped field =>
    [("message", "SET field has no usable parameter name, assignment dropped"),
      ("field", field)]
  | argumentSkipped condition typeName =>
    [("message",
        "argument count does not match parameters and value has no fields, skipped"),
      ("condition", condition), ("arg_type", typeName)]
  | orderDropped requested error =>
    [("message", "invalid ORDER BY field dropped"), ("order_by", requested), ("error", error)]
  | violation table message =>
    [("message", "builder precondition violated"), ("model", table), ("error", message)]

end Event

end SqlAssembly
