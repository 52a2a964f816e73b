import SqlAssembly.Json.Printer

/-! # Pages of rows

A page of rows with the numbers of a count query.

* `Pagination`              a page
* `Pagination.pageCount`    how many pages there are
* `Pagination.hasNext`      whether there is a page behind this one
* `Pagination.serialized`   the JSON text of a page -/

namespace SqlAssembly

/-- A page of rows. -/
structure Pagination (α : Type) where
  rows : List α
  index : IntWidth.int32.Carrier
  size : IntWidth.int32.Carrier
  totalCount : IntWidth.int64.Carrier
  /-- The further columns of the count query. -/
  totals : Option Json.Fields

namespace Pagination

variable {α β : Type}

/-- A page without rows, of none at all. -/
def empty (index size : IntWidth.int32.Carrier) : Pagination α :=
  ⟨[], index, size, IntWidth.int64.clamp 0, none⟩

/-- How many pages of `size` rows `total` rows fill, none if either is not positive. -/
def countPages (total size : Int) : IntWidth.int32.Carrier :=
  if size ≤ 0 ∨ total ≤ 0 then IntWidth.int32.clamp 0
  else IntWidth.int32.clamp ((total + size - 1) / size)

/-- How many pages there are. -/
def pageCount (p : Pagination α) : IntWidth.int32.Carrier :=
  countPages p.totalCount.val p.size.val

/-- Whether there is a page behind this one. -/
def hasNext (p : Pagination α) : Bool := p.index.val < p.pageCount.val

/-- The page with its rows replaced by their images. -/
def map (f : α → β) (p : Pagination α) : Pagination β := { p with rows := p.rows.map f }

/-- The JSON text of a page, given the JSON text of a row. -/
def serialized (row : α → String) (p : Pagination α) : String :=
  let totals :=
    match p.totals with
    | some fields => [Json.fieldText "totals" (Json.object fields).text]
    | none => []
  Json.braced ([Json.fieldText "data" (Json.bracketed (p.rows.map row)),
    Json.fieldText "pageIndex" (Json.intText p.index.val),
    Json.fieldText "pageSize" (Json.intText p.size.val),
    Json.fieldText "pageCount" (Json.intText p.pageCount.val),
    Json.fieldText "totalCount" (Json.intText p.totalCount.val)] ++ totals)

end Pagination

end SqlAssembly
