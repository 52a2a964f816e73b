/-! # Kinds of statements and their keywords

* `Mode`        the four kinds of statements
* `Direction`   the two ways to order rows
* `JoinType`    the ways to join a table -/

namespace SqlAssembly

/-- What kind of statement is under construction. -/
inductive Mode where
  | select
  | insert
  | update
  | delete
deriving DecidableEq, Repr

namespace Mode

/-- The name of the kind. -/
def name : Mode → String
  | select => "Select"
  | insert => "Insert"
  | update => "Update"
  | delete => "Delete"

/-- The keyword that the statement starts with. -/
def verb : Mode → String
  | select => "SELECT"
  | insert => "INSERT"
  | update => "UPDATE"
  | delete => "DELETE"

end Mode

/-- Which way rows are ordered. -/
inductive Direction where
  | descending
  | ascending
deriving DecidableEq, Repr

namespace Direction

/-- Descending, unless something else is asked for. -/
instance : Inhabited Direction := ⟨descending⟩

/-- The keyword. -/
def sql : Direction → String
  | descending => "DESC"
  | ascending => "ASC"

/-- The direction for a flag that is set for ascending. -/
def ofAscending (flag : Bool) : Direction := if flag then ascending else descending

end Direction

/-- How a table is joined. -/
inductive JoinType where
  | plain
  | left
  | right
  | inner
  | straight
deriving DecidableEq, Repr

/-- The keyword. -/
def JoinType.keyword : JoinType → String
  | plain => "JOIN"
  | left => "LEFT JOIN"
  | right => "RIGHT JOIN"
  | inner => "INNER JOIN"
  | straight => "STRAIGHT_JOIN"

end SqlAssembly
