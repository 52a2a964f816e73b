import SqlAssembly.Builder.Render
import SqlAssembly.Proofs.DecimalText

/-! # The texts of statements

What a rendered statement of each kind looks like, piece by piece, so that facts about its text
need not look into the renderer.

* `Builder.render_congr`                      what the text depends on
* `Builder.lockText`, `Builder.pageTail`      what a lock and a page put behind the rows
* `Builder.render_unpaged_select`             a SELECT without a page
* `Builder.render_paged_select`               a SELECT with a page
* `Builder.render_of_build`                   the text of a built statement
* `Builder.upsertText`, `Builder.identityText`   what follows the values of an INSERT
* `Builder.insertText`                        an INSERT up to the query for the identity
* `Builder.renderInsert_eq_ok`, `Builder.renderUpdate_eq_ok`, `Builder.renderDelete_eq_ok`
                                              the other statements, where they are rendered -/

namespace SqlAssembly.Builder

/-- The text depends on the kind of statement, the clauses and the identity only. -/
theorem render_congr {b c : Builder} (hmode : b.mode = c.mode) (hidentity : b.identity = c.identity)
    (hclauses : b.clauses = c.clauses) : b.render = c.render := by
  obtain ⟨mode, identity, clauses, params, config⟩ := b
  obtain ⟨mode', identity', clauses', params', config'⟩ := c
  obtain rfl : mode = mode' := hmode
  obtain rfl : identity = identity' := hidentity
  obtain rfl : clauses = clauses' := hclauses
  rfl

/-! ## Queries -/

/-- The lock as it stands behind the rows. -/
def lockText (b : Builder) : String := if b.clauses.has .forUpdate then " FOR UPDATE" else ""

/-- What a page puts behind the query of its rows. -/
def pageTail (b : Builder) (w : PageWindow) : String :=
  " LIMIT " ++ Json.intText w.offset ++ "," ++ Json.intText w.size.val ++ b.lockText

/-- A character that is in no number, keyword or comma is not in what a page adds. -/
theorem not_mem_pageTail {c : Char} (hsign : c ≠ '-') (hdigit : Numeral.isDigit c = false)
    (hword : c ∉ " LIMIT , FOR UPDATE".toList) (b : Builder) (w : PageWindow) :
    c ∉ (b.pageTail w).toList := by
  -- The three keywords are checked at once and taken apart here.
  have hparts : " LIMIT , FOR UPDATE".toList =
      " LIMIT ".toList ++ ",".toList ++ " FOR UPDATE".toList := by decide
  rw [hparts, List.mem_append, List.mem_append, not_or, not_or] at hword
  obtain ⟨⟨hlimit, hcomma⟩, hupdate⟩ := hword
  have hlock : c ∉ b.lockText.toList := by
    rw [lockText]
    split
    · exact hupdate
    · exact List.not_mem_nil
  have hoffset := Json.not_mem_intText hsign hdigit w.offset
  have hsize := Json.not_mem_intText hsign hdigit w.size.val
  simp only [pageTail, String.toList_append, List.mem_append, not_or]
  exact ⟨⟨⟨⟨hlimit, hoffset⟩, hcomma⟩, hsize⟩, hlock⟩

section

variable {b : Builder} {tables : String}

/-- A SELECT without a page is its query and its lock. -/
theorem render_unpaged_select (hmode : b.mode = .select)
    (htables : b.clauses.joined? .table = some tables) (hpage : b.clauses.page? = none) :
    b.render = .ok (b.selectBase tables ++ b.lockText) := by
  rw [render, hmode]
  simp only [renderSelect, htables, hpage, lockText]

/-- A SELECT with a page is its query, the limit of the page with the lock, and the count query. -/
theorem render_paged_select {w : PageWindow} (hmode : b.mode = .select)
    (htables : b.clauses.joined? .table = some tables) (hpage : b.clauses.page? = some w) :
    b.render = .ok (b.selectBase tables ++ b.pageTail w ++
      if w.countRows then ";" ++ countQuery (b.selectBase tables) w.totals else "") := by
  rw [render, hmode]
  simp only [renderSelect, htables, hpage, pageTail, lockText]
  split <;> simp [String.append_assoc]

end

/-- A built statement has the text that is rendered. -/
theorem render_of_build {b : Builder} {s : Statement} (h : b.build = .ok s) :
    b.render = .ok s.sql := by
  rw [build] at h
  cases hrender : b.render with
  | error e =>
    rw [hrender] at h
    exact nomatch h
  | ok sql =>
    rw [hrender] at h
    obtain rfl := Except.ok.inj h
    rfl

/-- A rendered SELECT has a table. -/
theorem exists_joined?_of_renderSelect {b : Builder} {sql : String}
    (h : b.renderSelect = .ok sql) : ∃ tables, b.clauses.joined? .table = some tables := by
  rw [renderSelect] at h
  split at h
  · exact nomatch h
  · rename_i tables htables
    exact ⟨tables, htables⟩

/-! ## Other statements -/

private theorem singleTable_eq_ok {b : Builder} {table : String} (h : b.singleTable = .ok table) :
    b.clauses.get .table = [.text table] := by
  rw [singleTable] at h
  split at h
  · rename_i hget
    rw [hget, Except.ok.inj h]
  · exact nomatch h
  · exact nomatch h

/-- A rendered UPDATE has a table and assignments. -/
theorem renderUpdate_eq_ok {b : Builder} {sql : String} (h : b.renderUpdate = .ok sql) :
    ∃ table assignments, b.clauses.get .table = [.text table] ∧
      b.clauses.joined? .updateValue = some assignments ∧
      sql = "UPDATE " ++ table ++ " SET " ++ assignments ++ b.conditionText := by
  -- The renderer fails without its one table, and then without assignments.
  cases htable : b.singleTable with
  | error e =>
    simp only [renderUpdate, htable] at h
    exact nomatch h
  | ok table =>
    cases hsets : b.clauses.joined? .updateValue with
    | none =>
      simp only [renderUpdate, htable, hsets] at h
      exact nomatch h
    | some assignments =>
      simp only [renderUpdate, htable, hsets] at h
      exact ⟨table, assignments, singleTable_eq_ok htable, rfl, (Except.ok.inj h).symm⟩

/-- A rendered DELETE has a table. -/
theorem renderDelete_eq_ok {b : Builder} {sql : String} (h : b.renderDelete = .ok sql) :
    ∃ table, b.clauses.get .table = [.text table] ∧
      sql = "DELETE FROM " ++ table ++ b.conditionText := by
  cases htable : b.singleTable with
  | error e =>
    simp only [renderDelete, htable] at h
    exact nomatch h
  | ok table =>
    simp only [renderDelete, htable] at h
    exact ⟨table, singleTable_eq_ok htable, (Except.ok.inj h).symm⟩

/-- The columns of an INSERT with their values. -/
def insertColumns (b : Builder) : List (String × String) :=
  (b.clauses.get .insertValue).filterMap Fragment.column?

/-- The assignments of an INSERT for a row that is there already. -/
def upsertText (b : Builder) : String :=
  let duplicates := (b.clauses.get .duplicateUpdate).filterMap Fragment.duplicate?
  if duplicates.isEmpty then ""
  else " ON DUPLICATE KEY UPDATE " ++ ",".intercalate (duplicates.map fun d => d.1 ++ "=" ++ d.2)

/-- The query for the identity of the new row. -/
def identityText (b : Builder) : String :=
  if b.identity then ";SELECT LAST_INSERT_ID() AS id;" else ""

/-- An INSERT up to the query for the identity of the new row. -/
def insertText (b : Builder) (table : String) : String :=
  "INSERT INTO " ++ table ++ " (" ++ ",".intercalate (b.insertColumns.map (·.1)) ++ ") VALUES (" ++
    ",".intercalate (b.insertColumns.map (·.2)) ++ ")" ++ b.upsertText

/-- With a table and columns an INSERT is rendered. -/
theorem renderInsert_of_table {b : Builder} {table : String}
    (htable : b.clauses.get .table = [.text table]) (hcolumns : b.insertColumns ≠ []) :
    b.renderInsert = .ok (b.insertText table ++ b.identityText) := by
  have hsingle : b.singleTable = .ok table := by
    rw [singleTable, htable]
  -- The renderer refuses an empty list of columns.
  have hempty : ((b.clauses.get .insertValue).filterMap Fragment.column?).isEmpty = false := by
    rwa [← insertColumns, List.isEmpty_eq_false_iff]
  simp only [renderInsert, hsingle, hempty]
  rfl

/-- A rendered INSERT has a table and columns. -/
theorem renderInsert_eq_ok {b : Builder} {sql : String} (h : b.renderInsert = .ok sql) :
    ∃ table, b.clauses.get .table = [.text table] ∧ b.insertColumns ≠ [] ∧
      sql = b.insertText table ++ b.identityText := by
  cases htable : b.singleTable with
  | error e =>
    simp only [renderInsert, htable] at h
    exact nomatch h
  | ok table =>
    by_cases hcolumns : b.insertColumns = []
    · -- without columns it would have been refused
      have hempty : ((b.clauses.get .insertValue).filterMap Fragment.column?).isEmpty = true := by
        rw [← insertColumns, hcolumns]
        rfl
      simp only [renderInsert, htable, hempty] at h
      exact nomatch h
    · rw [renderInsert_of_table (singleTable_eq_ok htable) hcolumns] at h
      exact ⟨table, singleTable_eq_ok htable, hcolumns, (Except.ok.inj h).symm⟩

end SqlAssembly.Builder
