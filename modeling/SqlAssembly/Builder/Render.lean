import SqlAssembly.Builder.Basic
import SqlAssembly.Error
import SqlAssembly.Statement

/-! # Rendering

The text of the statement that a builder has put together.  Rendering changes nothing, so it gives
the same text again.

* `Builder.render`         the text, or why there is none
* `Builder.renderEvents`   what rendering reports
* `Builder.build`          the text with the parameters -/

namespace SqlAssembly.Builder

/-- `lead` with the text behind it, if there is one. -/
def clauseText (lead : String) : Option String → String
  | some text => lead ++ text
  | none => ""

/-- The only table, which every statement but a SELECT must have. -/
def singleTable (b : Builder) : Except ConfigurationError String :=
  match b.clauses.get .table with
  | [.text name] => .ok name
  | [] => .error (.noTable b.mode)
  | tables => .error (.tableCount b.mode tables.length)

/-- The conditions. -/
def conditionText (b : Builder) : String :=
  clauseText " WHERE " (b.clauses.joined? .condition)

/-- An INSERT with its columns and values, and what follows them. -/
def renderInsert (b : Builder) : Except ConfigurationError String := do
  let table ← b.singleTable
  let columns := (b.clauses.get .insertValue).filterMap Fragment.column?
  if columns.isEmpty then .error .noValues
  else
    let fields := ",".intercalate (columns.map (·.1))
    let values := ",".intercalate (columns.map (·.2))
    let main := "INSERT INTO " ++ table ++ " (" ++ fields ++ ") VALUES (" ++ values ++ ")"
    let duplicates := (b.clauses.get .duplicateUpdate).filterMap Fragment.duplicate?
    let upsert :=
      if duplicates.isEmpty then ""
      else
        " ON DUPLICATE KEY UPDATE " ++
          ",".intercalate (duplicates.map fun d => d.1 ++ "=" ++ d.2)
    let identity := if b.identity then ";SELECT LAST_INSERT_ID() AS id;" else ""
    .ok (main ++ upsert ++ identity)

/-- An UPDATE with its assignments and conditions. -/
def renderUpdate (b : Builder) : Except ConfigurationError String := do
  let table ← b.singleTable
  match b.clauses.joined? .updateValue with
  | some assignments => .ok ("UPDATE " ++ table ++ " SET " ++ assignments ++ b.conditionText)
  | none => .error .noAssignments

/-- A DELETE with its conditions. -/
def renderDelete (b : Builder) : Except ConfigurationError String := do
  let table ← b.singleTable
  .ok ("DELETE FROM " ++ table ++ b.conditionText)

/-- A SELECT up to its explicit limit, given its tables. -/
def selectBase (b : Builder) (tables : String) : String :=
  let columns := (b.clauses.joined? .select).getD "*"
  let limit :=
    match b.clauses.limit? with
    | some (offset, rows) => " LIMIT " ++ Json.intText offset ++ "," ++ Json.intText rows
    | none => ""
  "SELECT " ++ columns ++ " FROM " ++ tables ++ clauseText " " (b.clauses.joined? .join) ++
    b.conditionText ++ clauseText " GROUP BY " (b.clauses.joined? .groupBy) ++
    clauseText " ORDER BY " (b.clauses.joined? .orderBy) ++ limit

/-- The count query over a SELECT. -/
def countQuery (base totals : String) : String :=
  let columns := if totals = "" then "" else ", " ++ totals
  "SELECT COUNT(0) AS Count" ++ columns ++ " FROM (" ++ base ++ ") AS CT"

/-- A SELECT, paged and counted where a page asks for it. -/
def renderSelect (b : Builder) : Except ConfigurationError String :=
  match b.clauses.joined? .table with
  | none => .error (.noTable .select)
  | some tables =>
    let base := b.selectBase tables
    let lock := if b.clauses.has .forUpdate then " FOR UPDATE" else ""
    match b.clauses.page? with
    | none => .ok (base ++ lock)
    | some window =>
      -- The lock goes behind the limit of the page, and the count query takes neither.
      let rows := base ++ " LIMIT " ++ Json.intText window.offset ++ "," ++
        Json.intText window.size.val ++ lock
      .ok (if window.countRows then rows ++ ";" ++ countQuery base window.totals else rows)

/-- The text of the statement, or why there is none. -/
def render (b : Builder) : Except ConfigurationError String :=
  match b.mode with
  | .select => b.renderSelect
  | .insert => b.renderInsert
  | .update => b.renderUpdate
  | .delete => b.renderDelete

/-- What rendering reports: the statement, if there is one. -/
def renderEvents (b : Builder) : List Event :=
  match b.render with
  | .ok sql =>
    [.rendered b.config.logLevel b.mode b.params.size (logText sql b.config.maxLogBytes)]
  | .error _ => []

/-- The statement with its parameters, or why there is none. -/
def build (b : Builder) : Except ConfigurationError Statement :=
  b.render.map fun sql => ⟨sql, b.params⟩

end SqlAssembly.Builder
