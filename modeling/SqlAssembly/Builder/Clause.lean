import SqlAssembly.Number.Width

/-! # Clauses

A statement under construction keeps the fragments of each clause in the order they were added in.

* `Clause`      the clauses
* `PageWindow`      which rows a page shows
* `Fragment`        a piece of a clause
* `Clauses`     the fragments of each clause -/

namespace SqlAssembly

/-- The clause that a fragment belongs to. -/
inductive Clause where
  | table
  | select
  | join
  | condition
  | groupBy
  | orderBy
  | limit
  | page
  | forUpdate
  | insertValue
  | updateValue
  | duplicateUpdate
deriving DecidableEq, Repr

namespace Clause

/-- All clauses in their order. -/
def all : List Clause :=
  [table, select, join, condition, groupBy, orderBy, limit, page, forUpdate, insertValue,
    updateValue, duplicateUpdate]

/-- What stands between two fragments of the clause. -/
def separator : Clause → String
  | condition => " AND "
  | join => " "
  | _ => ","

end Clause

/-- Which rows a page shows, and whether a count query goes with it. -/
structure PageWindow where
  offset : Int
  size : IntWidth.int32.Carrier
  countRows : Bool
  /-- Further columns of the count query, perhaps none. -/
  totals : String
deriving DecidableEq

namespace PageWindow

/-- The window of the page with this index, counted from 1. -/
def ofPage (index size : IntWidth.int32.Carrier) (countRows : Bool) (totals : String) :
    PageWindow :=
  ⟨(index.val - 1) * size.val, size, countRows, totals⟩

end PageWindow

/-- A piece of a clause. -/
inductive Fragment where
  | text (s : String)
  /-- A column of an INSERT and its placeholder or literal. -/
  | column (field value : String)
  /-- An assignment in case the row is there already. -/
  | duplicate (field value : String)
  | limit (offset rows : Int)
  | page (window : PageWindow)
  | forUpdate
deriving DecidableEq

namespace Fragment

/-- The text, if the fragment is one. -/
def text? : Fragment → Option String
  | text s => some s
  | _ => none

/-- The column and its value, if the fragment is one of an INSERT. -/
def column? : Fragment → Option (String × String)
  | column field value => some (field, value)
  | _ => none

/-- The assignment, if the fragment is one for a row that is there already. -/
def duplicate? : Fragment → Option (String × String)
  | duplicate field value => some (field, value)
  | _ => none

/-- Offset and number of rows, if the fragment is a limit. -/
def limit? : Fragment → Option (Int × Int)
  | limit offset rows => some (offset, rows)
  | _ => none

/-- The window, if the fragment is a page. -/
def page? : Fragment → Option PageWindow
  | page window => some window
  | _ => none

theorem limit?_eq_some_iff {f : Fragment} {r : Int × Int} :
    f.limit? = some r ↔ f = .limit r.1 r.2 := by
  cases f <;> simp [limit?, Prod.ext_iff]

theorem page?_eq_some_iff {f : Fragment} {w : PageWindow} : f.page? = some w ↔ f = .page w := by
  cases f <;> simp [page?]

end Fragment

/-- The fragments of each clause, in the order they were added in. -/
structure Clauses where
  get : Clause → List Fragment

namespace Clauses

@[ext] theorem ext {a b : Clauses} (h : ∀ k, a.get k = b.get k) : a = b := by
  cases a; cases b; simp only [mk.injEq]; exact funext h

/-- No fragments. -/
def empty : Clauses := ⟨fun _ => []⟩

instance : Inhabited Clauses := ⟨empty⟩

/-- The store with other fragments of one clause. -/
def set (c : Clauses) (clause : Clause) (fragments : List Fragment) : Clauses :=
  ⟨fun k => if k = clause then fragments else c.get k⟩

/-- Add a fragment behind the others of its clause. -/
def add (c : Clauses) (clause : Clause) (f : Fragment) : Clauses :=
  c.set clause (c.get clause ++ [f])

/-- Add fragments behind the others of their clause. -/
def addAll (c : Clauses) (clause : Clause) (fs : List Fragment) : Clauses :=
  c.set clause (c.get clause ++ fs)

/-- Put a fragment in place of all fragments of its clause. -/
def replace (c : Clauses) (clause : Clause) (f : Fragment) : Clauses := c.set clause [f]

/-- Drop the fragments of a clause, and return them if there were any. -/
def remove (c : Clauses) (clause : Clause) : Option (List Fragment) × Clauses :=
  (if (c.get clause).isEmpty then none else some (c.get clause), c.set clause [])

/-- The number of fragments of a clause. -/
def count (c : Clauses) (clause : Clause) : Nat := (c.get clause).length

/-- Whether the clause has a fragment. -/
def has (c : Clauses) (clause : Clause) : Bool := !(c.get clause).isEmpty

/-- The texts among the fragments of a clause. -/
def texts (c : Clauses) (clause : Clause) : List String :=
  (c.get clause).filterMap Fragment.text?

/-- The texts among the fragments of a clause, joined by its separator; none without a text. -/
def joined? (c : Clauses) (clause : Clause) : Option String :=
  match c.texts clause with
  | [] => none
  | ts => some (clause.separator.intercalate ts)

/-- The window of the first page fragment of its clause. -/
def page? (c : Clauses) : Option PageWindow := (c.get .page).findSome? Fragment.page?

/-- Offset and number of rows of the first limit fragment of its clause. -/
def limit? (c : Clauses) : Option (Int × Int) := (c.get .limit).findSome? Fragment.limit?

@[simp] theorem get_set_self (c : Clauses) (clause : Clause) (fs : List Fragment) :
    (c.set clause fs).get clause = fs := by simp [set]

theorem get_set_of_ne (c : Clauses) {clause k : Clause} (fs : List Fragment)
    (h : k ≠ clause) : (c.set clause fs).get k = c.get k := by simp [set, h]

@[simp] theorem get_add_self (c : Clauses) (clause : Clause) (f : Fragment) :
    (c.add clause f).get clause = c.get clause ++ [f] := by simp [add]

theorem get_add_of_ne (c : Clauses) {clause k : Clause} (f : Fragment) (h : k ≠ clause) :
    (c.add clause f).get k = c.get k := get_set_of_ne c _ h

@[simp] theorem get_replace_self (c : Clauses) (clause : Clause) (f : Fragment) :
    (c.replace clause f).get clause = [f] := by simp [replace]

theorem get_replace_of_ne (c : Clauses) {clause k : Clause} (f : Fragment)
    (h : k ≠ clause) : (c.replace clause f).get k = c.get k := get_set_of_ne c _ h

end Clauses

end SqlAssembly
