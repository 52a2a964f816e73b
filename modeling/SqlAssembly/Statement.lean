import SqlAssembly.Params
import SqlAssembly.Text.Blank

/-! # Rendered statements

The text of one or two statements and the parameters that they share.

* `Statement.pieces`      the statements of the text
* `Statement.splitPage`   the row query and the count query of a paged one -/

namespace SqlAssembly

/-- The text of statements joined by semicolons, with its parameters. -/
structure Statement where
  sql : String
  params : Params

namespace Statement

/-- The statements of a text: what stands between its semicolons, without blanks at the ends and
    without empty ones. -/
def piecesOf (sql : String) : List String :=
  ((Text.splitAt ';' sql).map Text.trim).filter (· ≠ "")

/-- The single statements. -/
def pieces (s : Statement) : List String := piecesOf s.sql

/-- What a count query starts with behind the row query. -/
def countMark : String := ";SELECT COUNT(0)"

/-- The row query and, if there is one, the count query. -/
def splitPage (s : Statement) : String × Option String :=
  match Text.cutAt? countMark s.sql with
  | some (rows, rest) => (rows, some (String.ofList (countMark.toList.drop 1) ++ rest))
  | none => (s.sql, none)

end Statement

end SqlAssembly
