import SqlAssembly.Value.Basic
import SqlAssembly.Text.Ascii
import SqlAssembly.Text.Blank
import SqlAssembly.Text.Split

/-! # Comparison operators

The operators that a predicate on a column can use.  A request chooses one by name, by symbol or
by code.

* `Comparison`            the operators
* `Comparison.sql`        the symbol
* `Comparison.read?`      the operator that a text chooses
* `Comparison.ofValue?`   the operator that a value chooses
* `Comparison.keyFor`     the key under which a request chooses the operator of a column -/

namespace SqlAssembly

/-- A comparison operator. -/
inductive Comparison where
  | equal
  | notEqual
  | greater
  | greaterOrEqual
  | less
  | lessOrEqual
  | like
deriving DecidableEq, Repr

namespace Comparison

instance : Inhabited Comparison := ⟨equal⟩

/-- All operators in the order of their codes. -/
def all : List Comparison :=
  [equal, notEqual, greater, greaterOrEqual, less, lessOrEqual, like]

/-- The operator's symbol. -/
def sql : Comparison → String
  | equal => "="
  | notEqual => "<>"
  | greater => ">"
  | greaterOrEqual => ">="
  | less => "<"
  | lessOrEqual => "<="
  | like => "LIKE"

/-- The operator's name. -/
def name : Comparison → String
  | equal => "Equal"
  | notEqual => "NotEqual"
  | greater => "Greater"
  | greaterOrEqual => "GreaterOrEqual"
  | less => "Less"
  | lessOrEqual => "LessOrEqual"
  | like => "Like"

/-- The operator's code. -/
def code : Comparison → Int
  | equal => 0
  | notEqual => 1
  | greater => 2
  | greaterOrEqual => 3
  | less => 4
  | lessOrEqual => 5
  | like => 6

/-- The operator of a code. -/
def ofCode? (n : Int) : Option Comparison := all.find? fun c => c.code = n

theorem ofCode?_code (c : Comparison) : ofCode? c.code = some c := by cases c <;> decide

/-- The operator that a text chooses: by its name or its symbol in letters of either case, by
    `NoEqual` or `!=`, or by its code.  Blanks at the ends do not count. -/
def read? (s : String) : Option Comparison :=
  let t := Text.trim s
  if Text.equalUpToCase t "NoEqual" || t = "!=" then some notEqual
  else
    match all.find? fun c => Text.equalUpToCase c.name t || Text.equalUpToCase c.sql t with
    | some c => some c
    | none => (IntWidth.int64.read? 10 t.toList).bind fun n => ofCode? n.val

/-- The operator that a value chooses. -/
def ofValue? : Value → Option Comparison
  | .text s => read? s
  | .int16 n => ofCode? n.val
  | .int32 n => ofCode? n.val
  | .int64 n => ofCode? n.val
  | _ => none

/-- The value of an operator: its code. -/
def toValue (c : Comparison) : Value := .int32 (IntWidth.int32.clamp c.code)

/-- What the key of an operator ends in. -/
def keySuffix : String := "_WhereCompare"

/-- The key under which a request chooses the operator of a column. -/
def keyFor (column : String) : String :=
  if Text.endsIn keySuffix column then column else column ++ keySuffix

end Comparison

end SqlAssembly
