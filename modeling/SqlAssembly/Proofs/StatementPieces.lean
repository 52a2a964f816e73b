import Mathlib.Data.List.TakeWhile
import SqlAssembly.Proofs.PlainFragments
import SqlAssembly.Proofs.StatementText
import SqlAssembly.Statement

/-! # How many statements a text has

A statement text is cut at its semicolons, wherever they stand.  The renderer puts one in front of
a count query and two around the query for an identity, so the number of statements is the one
asked for as long as no fragment has a semicolon.  A semicolon in an order makes them more.

* `Statement.piecesOf_append`          the statements on both sides of a semicolon
* `Statement.piecesOf_of_isPlain`      a text without semicolons is one statement
* `Builder.statementCount`             the number of statements asked for
* `Builder.single`                     what is left if a second statement is not asked for
* `Builder.FallsApart`                 whether a text falls into the statements asked for
* `Builder.fallsApart_render`          it does if no fragment that is rendered has a semicolon
* `Builder.length_piecesOf_render`     then there are as many as asked for
* `Builder.statementCount_lt_of_order` it is less if an order has one -/

namespace SqlAssembly

/-! ## Cutting at a character -/

namespace Text

variable {sep : Char}

theorem piecesAt_ne_nil (cs : List Char) : piecesAt sep cs ≠ [] := by
  cases cs with
  | nil => exact List.cons_ne_nil _ _
  | cons c cs =>
    rw [piecesAt]
    split
    · exact List.cons_ne_nil _ _
    · cases piecesAt sep cs <;> exact List.cons_ne_nil _ _

private theorem consPiece_append {ps : List (List Char)} (h : ps ≠ []) (c : Char)
    (qs : List (List Char)) : consPiece c (ps ++ qs) = consPiece c ps ++ qs := by
  cases ps with
  | nil => exact absurd rfl h
  | cons p ps => rfl

/-- The pieces on both sides of an occurrence. -/
private theorem piecesAt_append_sep (a b : List Char) :
    piecesAt sep (a ++ sep :: b) = piecesAt sep a ++ piecesAt sep b := by
  induction a with
  | nil => exact if_pos rfl
  | cons c cs ih =>
    rw [List.cons_append, piecesAt, piecesAt, ih]
    split
    · rfl
    · -- The character goes into the first piece, which is one of the front text.
      exact consPiece_append (piecesAt_ne_nil cs) c _

/-- Without an occurrence there is one piece. -/
theorem piecesAt_of_not_mem {cs : List Char} (h : sep ∉ cs) : piecesAt sep cs = [cs] := by
  induction cs with
  | nil => rfl
  | cons c cs ih =>
    rw [piecesAt, if_neg fun hc => h (List.mem_cons.2 (.inl hc.symm)),
      ih fun hcs => h (List.mem_cons_of_mem c hcs)]
    rfl

/-- Every other character is in a piece. -/
private theorem exists_mem_piecesAt {cs : List Char} {c : Char} (hc : c ∈ cs) (hne : c ≠ sep) :
    ∃ p ∈ piecesAt sep cs, c ∈ p := by
  induction cs with
  | nil => exact absurd hc List.not_mem_nil
  | cons d cs ih =>
    rw [piecesAt]
    rcases List.mem_cons.1 hc with rfl | hc
    · rw [if_neg hne]
      -- The character itself begins the first piece.
      have hpieces : piecesAt sep cs ≠ [] := piecesAt_ne_nil cs
      obtain ⟨p, ps, hps⟩ := List.exists_cons_of_ne_nil hpieces
      rw [hps]
      exact ⟨c :: p, List.mem_cons_self, List.mem_cons_self⟩
    · obtain ⟨p, hp, hcp⟩ := ih hc
      split
      · exact ⟨p, List.mem_cons_of_mem _ hp, hcp⟩
      · cases hps : piecesAt sep cs with
        | nil => exact absurd hps (piecesAt_ne_nil cs)
        | cons q qs =>
          -- Another character was put in front of the first piece, which may be the one.
          rw [hps] at hp
          rcases List.mem_cons.1 hp with rfl | hp
          · exact ⟨d :: p, List.mem_cons_self, List.mem_cons_of_mem d hcp⟩
          · exact ⟨p, List.mem_cons_of_mem _ hp, hcp⟩

private theorem mem_dropWhile_of_neg {p : Char → Bool} {cs : List Char} {c : Char} (hc : c ∈ cs)
    (hp : p c = false) : c ∈ cs.dropWhile p := by
  -- What is dropped satisfies the test.
  rw [← List.takeWhile_append_dropWhile (p := p) (l := cs), List.mem_append] at hc
  rcases hc with hc | hc
  · rw [List.mem_takeWhile_imp hc] at hp
    exact Bool.noConfusion hp
  · exact hc

/-- Trimming keeps every character that is not blank. -/
theorem mem_trimChars {cs : List Char} {c : Char} (hc : c ∈ cs) (h : isBlank c = false) :
    c ∈ trimChars cs := by
  rw [trimChars, trimRight, List.mem_reverse]
  exact mem_dropWhile_of_neg (List.mem_reverse.2 (mem_dropWhile_of_neg hc h)) h

/-! ## Semicolons and ink -/

/-- A text with a semicolon falls apart at it. -/
theorem exists_append_of_not_isPlain {s : String} (h : ¬ IsPlain s) :
    ∃ front back, s = front ++ ";" ++ back := by
  obtain ⟨front, back, hsplit⟩ := List.append_of_mem (Decidable.not_not.1 h)
  refine ⟨String.ofList front, String.ofList back, String.toList_inj.1 ?_⟩
  simp only [String.toList_append, String.toList_ofList, hsplit]
  exact (List.append_assoc front [';'] back).symm

/-- Whether a text has a character that is neither blank nor a semicolon. -/
def HasInk (s : String) : Prop := ∃ c ∈ s.toList, c ≠ ';' ∧ isBlank c = false

theorem HasInk.append {a : String} (h : HasInk a) (b : String) : HasInk (a ++ b) := by
  obtain ⟨c, hc, hink⟩ := h
  exact ⟨c, String.toList_append ▸ List.mem_append_left _ hc, hink⟩

theorem HasInk.append_left {b : String} (h : HasInk b) (a : String) : HasInk (a ++ b) := by
  obtain ⟨c, hc, hink⟩ := h
  exact ⟨c, String.toList_append ▸ List.mem_append_right _ hc, hink⟩

end Text

/-! ## The statements of a text -/

namespace Statement

/-- The statements on both sides of a semicolon. -/
theorem piecesOf_append (a b : String) :
    piecesOf (a ++ ";" ++ b) = piecesOf a ++ piecesOf b := by
  -- Seen as characters there is one separator between the two texts.
  have hchars : (a ++ ";" ++ b).toList = a.toList ++ ';' :: b.toList := by
    rw [String.toList_append, String.toList_append, List.append_assoc]
    rfl
  rw [piecesOf, Text.splitAt, hchars, Text.piecesAt_append_sep, List.map_append, List.map_append,
    List.filter_append]
  rfl

theorem trim_ne_empty {s : String} (h : Text.HasInk s) : Text.trim s ≠ "" := by
  obtain ⟨c, hc, -, hblank⟩ := h
  intro hempty
  have hmem := Text.mem_trimChars hc hblank
  rw [← Text.toList_trim, hempty] at hmem
  exact absurd hmem List.not_mem_nil

/-- A text without semicolons is one statement, unless it is blank. -/
theorem piecesOf_eq_ite {s : String} (h : Text.IsPlain s) :
    piecesOf s = if Text.trim s = "" then [] else [Text.trim s] := by
  rw [piecesOf, Text.splitAt, Text.piecesAt_of_not_mem h, List.map_singleton, List.map_singleton,
    String.ofList_toList]
  -- A single piece is kept unless nothing is left of it.
  by_cases htrim : Text.trim s = ""
  · simp [htrim]
  · simp [htrim]

theorem piecesOf_of_isPlain {s : String} (h : Text.IsPlain s) (hink : Text.HasInk s) :
    piecesOf s = [Text.trim s] := by
  rw [piecesOf_eq_ite h, if_neg (trim_ne_empty hink)]

/-- A text that is not all blanks and semicolons has a statement. -/
private theorem length_piecesOf_pos {s : String} (h : Text.HasInk s) : 0 < (piecesOf s).length := by
  obtain ⟨c, hc, hne, hblank⟩ := h
  -- The ink is in one of the pieces, which is kept for it.
  obtain ⟨p, hp, hcp⟩ := Text.exists_mem_piecesAt hc hne
  have hink : Text.HasInk (String.ofList p) := ⟨c, String.toList_ofList.symm ▸ hcp, hne, hblank⟩
  refine List.length_pos_of_mem (a := Text.trim (String.ofList p)) ?_
  rw [piecesOf, List.mem_filter]
  exact ⟨List.mem_map_of_mem (List.mem_map_of_mem hp), by simpa using trim_ne_empty hink⟩

end Statement

/-! ## Rendered statements -/

/-- The fragment without the count query that goes with a page. -/
def Fragment.uncounted : Fragment → Fragment
  | .page window => .page { window with countRows := false }
  | f => f

namespace Builder

variable {b : Builder}

private theorem isPlain_conditionText (h : b.clauses.IsPlain .condition) :
    Text.IsPlain b.conditionText :=
  h.clauseText (by decide)

private theorem isPlain_selectBase (h : ∀ k, b.clauses.IsPlain k) {tables : String}
    (htables : Text.IsPlain tables) : Text.IsPlain (b.selectBase tables) := by
  -- Without columns there is a star.
  have hcolumns : Text.IsPlain ((b.clauses.joined? .select).getD "*") := by
    cases hjoined : b.clauses.joined? .select with
    | none => decide
    | some columns => exact (h .select).joined hjoined
  unfold selectBase
  simp only [Text.isPlain_append]
  refine ⟨⟨⟨⟨⟨⟨⟨⟨by decide, hcolumns⟩, by decide⟩, htables⟩, (h .join).clauseText (by decide)⟩,
    isPlain_conditionText (h .condition)⟩, (h .groupBy).clauseText (by decide)⟩,
    (h .orderBy).clauseText (by decide)⟩, ?_⟩
  -- What is left is the limit.
  split
  · simp only [Text.isPlain_append]
    exact ⟨⟨⟨by decide, Text.isPlain_intText _⟩, by decide⟩, Text.isPlain_intText _⟩
  · decide

private theorem isPlain_lockText (b : Builder) : Text.IsPlain b.lockText := by
  rw [lockText]
  split
  · decide
  · decide

private theorem isPlain_pageTail (b : Builder) (w : PageWindow) : Text.IsPlain (b.pageTail w) :=
  not_mem_pageTail (by decide) (by decide) (by decide) b w

private theorem isPlain_countQuery {base totals : String} (hbase : Text.IsPlain base)
    (htotals : Text.IsPlain totals) : Text.IsPlain (countQuery base totals) := by
  have hcolumns : Text.IsPlain (if totals = "" then "" else ", " ++ totals) := by
    split
    · decide
    · exact Text.isPlain_append.2 ⟨by decide, htotals⟩
  unfold countQuery
  simp only [Text.isPlain_append]
  exact ⟨⟨⟨⟨by decide, hcolumns⟩, by decide⟩, hbase⟩, by decide⟩

private theorem hasInk_selectBase (b : Builder) (tables : String) :
    Text.HasInk (b.selectBase tables) := by
  have hverb : Text.HasInk "SELECT " := ⟨'S', by decide, by decide, by decide⟩
  unfold selectBase
  exact (((((((hverb.append _).append _).append _).append _).append _).append _).append _).append _

private theorem hasInk_countQuery (base totals : String) :
    Text.HasInk (countQuery base totals) := by
  have hverb : Text.HasInk "SELECT COUNT(0) AS Count" := ⟨'S', by decide, by decide, by decide⟩
  unfold countQuery
  exact (((hverb.append _).append _).append _).append _

/-- The number of statements that a builder has been asked for. -/
def statementCount (b : Builder) : Nat :=
  if (b.mode = .select ∧ b.countsRows = true) ∨ (b.mode = .insert ∧ b.identity = true) then 2
  else 1

private theorem statementCount_of_select (hmode : b.mode = .select) :
    b.statementCount = if b.countsRows then 2 else 1 := by
  simp [statementCount, hmode]

private theorem statementCount_of_insert (hmode : b.mode = .insert) :
    b.statementCount = if b.identity then 2 else 1 := by
  simp [statementCount, hmode]

private theorem statementCount_of_ne (hselect : b.mode ≠ .select) (hinsert : b.mode ≠ .insert) :
    b.statementCount = 1 := by
  simp [statementCount, hselect, hinsert]

/-- The page of a builder is one of its fragments. -/
private theorem isPlain_totals (h : b.clauses.IsPlain .page) {w : PageWindow}
    (hw : b.clauses.page? = some w) : Text.IsPlain w.totals := by
  obtain ⟨f, hf, hpage⟩ := List.exists_of_findSome?_eq_some hw
  cases f with
  | page window =>
    obtain rfl := Option.some.inj hpage
    exact h _ hf _ List.mem_cons_self
  | _ => exact nomatch hpage

/-- The builder without what asks for a second statement: an identity and a count of the rows. -/
def single (b : Builder) : Builder :=
  { b with
    identity := false
    clauses := b.clauses.set .page ((b.clauses.get .page).map Fragment.uncounted) }

private theorem page?_single (b : Builder) :
    b.single.clauses.page? = b.clauses.page?.map fun w => { w with countRows := false } := by
  -- Looking for a page is not disturbed by what happens to its count.
  have hview : Fragment.page? ∘ Fragment.uncounted =
      Option.map (fun w => { w with countRows := false }) ∘ Fragment.page? := by
    funext f
    cases f <;> rfl
  rw [Clauses.page?, Clauses.page?, single, Clauses.get_set_self, List.findSome?_map, hview,
    List.map_findSome?]

/-- The query of the rows without its page and its lock. -/
def baseText (b : Builder) : String := b.selectBase ((b.clauses.joined? .table).getD "")

/-- The second statement, if one is asked for. -/
def second? (b : Builder) : Option String :=
  match b.mode with
  | .select =>
    (b.clauses.page?.filter (·.countRows)).map fun w => countQuery b.baseText w.totals
  | .insert => if b.identity then some "SELECT LAST_INSERT_ID() AS id" else none
  | .update | .delete => none

/-- Whether a text falls into the main statement and the second one, if that is asked for. -/
def FallsApart (b : Builder) (sql : String) : Prop :=
  ∃ main, b.single.render = .ok main ∧
    Statement.piecesOf sql = Text.trim main :: (b.second?.map Text.trim).toList

theorem statementCount_eq (b : Builder) : b.statementCount = 1 + b.second?.toList.length := by
  rw [second?]
  cases hmode : b.mode with
  | select =>
    rw [statementCount_of_select hmode, countsRows]
    cases b.clauses.page? with
    | none => rfl
    -- The page decides whether there is a second statement.
    | some w => cases hcount : w.countRows <;> simp [hcount, Option.filter]
  | insert =>
    rw [statementCount_of_insert hmode]
    cases b.identity <;> rfl
  | update | delete => exact statementCount_of_ne (by simp [hmode]) (by simp [hmode])

/-- A SELECT is its query of the rows, with a count query behind it if its page asks for one. -/
private theorem fallsApart_renderSelect (hmode : b.mode = .select) (h : ∀ k, b.clauses.IsPlain k)
    {sql : String} (hsql : b.render = .ok sql) : b.FallsApart sql := by
  have hselect : b.renderSelect = .ok sql := by rwa [render, hmode] at hsql
  obtain ⟨tables, htables⟩ := exists_joined?_of_renderSelect hselect
  have htables' : b.single.clauses.joined? .table = some tables := htables
  have hbase := isPlain_selectBase h ((h .table).joined htables)
  have hink := hasInk_selectBase b tables
  have hpage' := b.page?_single
  rw [FallsApart, second?, hmode]
  cases hpage : b.clauses.page? with
  | none =>
    rw [hpage] at hpage'
    rw [render_unpaged_select hmode htables hpage] at hsql
    obtain rfl := Except.ok.inj hsql
    refine ⟨_, render_unpaged_select (b := b.single) hmode htables' hpage', ?_⟩
    exact Statement.piecesOf_of_isPlain (Text.isPlain_append.2 ⟨hbase, b.isPlain_lockText⟩)
      (hink.append _)
  | some w =>
    rw [hpage] at hpage'
    -- The rows with their page, and the same without the count.
    have hrows := Text.isPlain_append.2 ⟨hbase, b.isPlain_pageTail w⟩
    have hmain := render_paged_select (b := b.single) hmode htables' hpage'
    rw [if_neg Bool.false_ne_true, String.append_empty] at hmain
    rw [render_paged_select hmode htables hpage] at hsql
    obtain rfl := Except.ok.inj hsql
    refine ⟨_, hmain, ?_⟩
    show _ = Text.trim (b.selectBase tables ++ b.pageTail w) :: _
    cases hcount : w.countRows with
    | true =>
      -- The count query is cut off at the one semicolon.
      have hcounted := isPlain_countQuery hbase (isPlain_totals (h .page) hpage)
      rw [if_pos rfl, ← String.append_assoc, Statement.piecesOf_append,
        Statement.piecesOf_of_isPlain hrows (hink.append _),
        Statement.piecesOf_of_isPlain hcounted (hasInk_countQuery _ _)]
      simp [hcount, baseText, htables, Option.filter]
    | false =>
      rw [if_neg Bool.false_ne_true, String.append_empty,
        Statement.piecesOf_of_isPlain hrows (hink.append _)]
      simp [hcount, Option.filter]

private theorem isPlain_insertColumns (h : b.clauses.IsPlain .insertValue)
    {column : String × String} (hc : column ∈ b.insertColumns) :
    Text.IsPlain column.1 ∧ Text.IsPlain column.2 := by
  obtain ⟨f, hf, hcolumn⟩ := List.mem_filterMap.1 hc
  cases f with
  | column field value =>
    obtain rfl := Option.some.inj hcolumn
    have hplain := h _ hf
    exact ⟨hplain field List.mem_cons_self,
      hplain value (List.mem_cons_of_mem _ List.mem_cons_self)⟩
  | _ => exact nomatch hcolumn

private theorem isPlain_upsertText (h : b.clauses.IsPlain .duplicateUpdate) :
    Text.IsPlain b.upsertText := by
  unfold upsertText
  dsimp only
  split
  · decide
  · refine Text.isPlain_append.2 ⟨by decide, Text.isPlain_intercalate (by decide) fun s hs => ?_⟩
    obtain ⟨d, hd, rfl⟩ := List.mem_map.1 hs
    obtain ⟨f, hf, hduplicate⟩ := List.mem_filterMap.1 hd
    cases f with
    | duplicate field value =>
      obtain rfl := Option.some.inj hduplicate
      have hplain := h _ hf
      simp only [Text.isPlain_append]
      exact ⟨⟨hplain field List.mem_cons_self, by decide⟩,
        hplain value (List.mem_cons_of_mem _ List.mem_cons_self)⟩
    | _ => exact nomatch hduplicate

private theorem isPlain_singleTable (h : b.clauses.IsPlain .table) {table : String}
    (htable : b.clauses.get .table = [.text table]) : Text.IsPlain table :=
  h (.text table) (htable ▸ List.mem_cons_self) table List.mem_cons_self

private theorem isPlain_insertText (h : ∀ k ≠ .orderBy, b.clauses.IsPlain k) {table : String}
    (htable : Text.IsPlain table) : Text.IsPlain (b.insertText table) := by
  -- Names and values come from the columns of the INSERT.
  have hnames : ∀ s ∈ b.insertColumns.map (·.1), Text.IsPlain s := fun s hs => by
    obtain ⟨column, hcolumn, rfl⟩ := List.mem_map.1 hs
    exact (isPlain_insertColumns (h _ (by decide)) hcolumn).1
  have hvalues : ∀ s ∈ b.insertColumns.map (·.2), Text.IsPlain s := fun s hs => by
    obtain ⟨column, hcolumn, rfl⟩ := List.mem_map.1 hs
    exact (isPlain_insertColumns (h _ (by decide)) hcolumn).2
  unfold insertText
  simp only [Text.isPlain_append]
  exact ⟨⟨⟨⟨⟨⟨⟨by decide, htable⟩, by decide⟩, Text.isPlain_intercalate (by decide) hnames⟩,
    by decide⟩, Text.isPlain_intercalate (by decide) hvalues⟩, by decide⟩,
    isPlain_upsertText (h _ (by decide))⟩

private theorem hasInk_insertText (b : Builder) (table : String) :
    Text.HasInk (b.insertText table) := by
  have hverb : Text.HasInk "INSERT INTO " := ⟨'I', by decide, by decide, by decide⟩
  unfold insertText
  exact ((((((hverb.append _).append _).append _).append _).append _).append _).append _

/-- An INSERT is followed by a query for the identity of the new row if it asks for it. -/
private theorem fallsApart_renderInsert (hmode : b.mode = .insert)
    (h : ∀ k ≠ .orderBy, b.clauses.IsPlain k) {sql : String} (hsql : b.render = .ok sql) :
    b.FallsApart sql := by
  have hinsert : b.renderInsert = .ok sql := by rwa [render, hmode] at hsql
  obtain ⟨table, htable, hcolumns, rfl⟩ := renderInsert_eq_ok hinsert
  -- Without its identity the statement ends behind its values.
  have hmain : b.single.render = .ok (b.insertText table) := by
    have hmode' : b.single.mode = .insert := hmode
    rw [render, hmode']
    exact (renderInsert_of_table (b := b.single) htable hcolumns).trans
      (congrArg Except.ok String.append_empty)
  have hone : Statement.piecesOf (b.insertText table) = [Text.trim (b.insertText table)] :=
    Statement.piecesOf_of_isPlain
      (isPlain_insertText h (isPlain_singleTable (h _ (by decide)) htable))
      (b.hasInk_insertText table)
  refine ⟨_, hmain, ?_⟩
  rw [second?, hmode]
  cases hidentity : b.identity with
  | true =>
    -- The second semicolon ends the text and begins no statement.
    have hquery : b.identityText = ";" ++ "SELECT LAST_INSERT_ID() AS id;" := by
      rw [identityText, hidentity]
      decide
    have hsecond : Statement.piecesOf "SELECT LAST_INSERT_ID() AS id;" =
        [Text.trim "SELECT LAST_INSERT_ID() AS id"] := by decide
    rw [hquery, ← String.append_assoc, Statement.piecesOf_append, hone, hsecond]
    rfl
  | false =>
    have hquery : b.identityText = "" := by
      rw [identityText, hidentity]
      rfl
    rw [hquery, String.append_empty, hone]
    rfl

/-- A statement of another kind has nothing behind it. -/
private theorem fallsApart_renderOther (hselect : b.mode ≠ .select) (hinsert : b.mode ≠ .insert)
    (h : ∀ k ≠ .orderBy, b.clauses.IsPlain k) {sql : String} (hsql : b.render = .ok sql) :
    b.FallsApart sql := by
  have hconditions := isPlain_conditionText (h .condition (by decide))
  -- What is the same for an UPDATE and a DELETE.
  have hone : b.single.render = b.render ∧ b.second? = none ∧ Text.IsPlain sql ∧
      Text.HasInk sql := by
    rw [second?, render, render]
    cases hmode : b.mode with
    | select => exact absurd hmode hselect
    | insert => exact absurd hmode hinsert
    | update =>
      have hmode' : b.single.mode = .update := hmode
      rw [render, hmode] at hsql
      obtain ⟨table, assignments, htable, hassignments, rfl⟩ := renderUpdate_eq_ok hsql
      have hverb : Text.HasInk "UPDATE " := ⟨'U', by decide, by decide, by decide⟩
      rw [hmode']
      simp only [Text.isPlain_append]
      exact ⟨rfl, trivial, ⟨⟨⟨⟨by decide, isPlain_singleTable (h _ (by decide)) htable⟩, by decide⟩,
        (h .updateValue (by decide)).joined hassignments⟩, hconditions⟩,
        (((hverb.append _).append _).append _).append _⟩
    | delete =>
      have hmode' : b.single.mode = .delete := hmode
      rw [render, hmode] at hsql
      obtain ⟨table, htable, rfl⟩ := renderDelete_eq_ok hsql
      have hverb : Text.HasInk "DELETE FROM " := ⟨'D', by decide, by decide, by decide⟩
      rw [hmode']
      simp only [Text.isPlain_append]
      exact ⟨rfl, trivial, ⟨⟨by decide, isPlain_singleTable (h _ (by decide)) htable⟩, hconditions⟩,
        (hverb.append _).append _⟩
  obtain ⟨hmain, hsecond, hplain, hink⟩ := hone
  refine ⟨sql, hmain.trans hsql, ?_⟩
  rw [hsecond, Statement.piecesOf_of_isPlain hplain hink]
  rfl

/-- If no fragment that is rendered has a semicolon, a text falls into its main statement and the
    second one, if that is asked for; an order is rendered in a SELECT only. -/
theorem fallsApart_render (h : ∀ k, (k = .orderBy → b.mode = .select) → b.clauses.IsPlain k)
    {sql : String} (hsql : b.render = .ok sql) : b.FallsApart sql := by
  -- All clauses but the order are free of semicolons in any case.
  have hothers : ∀ k ≠ .orderBy, b.clauses.IsPlain k := fun k hk => h k fun hk' => absurd hk' hk
  by_cases hselect : b.mode = .select
  · exact fallsApart_renderSelect hselect (fun k => h k fun _ => hselect) hsql
  · by_cases hinsert : b.mode = .insert
    · exact fallsApart_renderInsert hinsert hothers hsql
    · exact fallsApart_renderOther hselect hinsert hothers hsql

/-- Then there are as many statements as asked for. -/
theorem length_piecesOf_render (h : ∀ k, (k = .orderBy → b.mode = .select) → b.clauses.IsPlain k)
    {sql : String} (hsql : b.render = .ok sql) :
    (Statement.piecesOf sql).length = b.statementCount := by
  obtain ⟨main, -, hpieces⟩ := fallsApart_render h hsql
  rw [hpieces, statementCount_eq, List.length_cons, Option.toList_map, List.length_map,
    Nat.add_comm]

/-! ## An order with a semicolon -/

/-- A text is part of the ones that it is joined with. -/
private theorem exists_intercalate_eq (sep : String) {x : String} {xs : List String} (h : x ∈ xs) :
    ∃ front back, sep.intercalate xs = front ++ x ++ back := by
  induction xs with
  | nil => exact absurd h List.not_mem_nil
  | cons y ys ih =>
    cases ys with
    | nil =>
      obtain rfl := List.mem_singleton.1 h
      exact ⟨"", "", by rw [String.intercalate_singleton, String.append_empty, String.empty_append]⟩
    | cons z zs =>
      rw [String.intercalate_cons_cons]
      -- The text is the first one or among the others.
      rcases List.mem_cons.1 h with rfl | h
      · exact ⟨"", sep ++ sep.intercalate (z :: zs), by
          rw [String.empty_append, String.append_assoc]⟩
      · obtain ⟨front, back, heq⟩ := ih h
        refine ⟨y ++ sep ++ front, back, ?_⟩
        rw [heq]
        simp only [String.append_assoc]

/-- The order stands in the query of the rows, with ink in front of it. -/
private theorem exists_selectBase_eq (b : Builder) (tables : String) :
    ∃ front back, b.selectBase tables =
      front ++ clauseText " ORDER BY " (b.clauses.joined? .orderBy) ++ back ∧
        Text.HasInk front := by
  have hverb : Text.HasInk "SELECT " := ⟨'S', by decide, by decide, by decide⟩
  exact ⟨_, _, rfl, (((((hverb.append _).append _).append _).append _).append _).append _⟩

/-- An order with a semicolon divides the query of the rows, with ink on both sides. -/
private theorem exists_selectBase_eq_of_order {column : String} {direction : Direction}
    (h : .text (column ++ " " ++ direction.sql) ∈ b.clauses.get .orderBy)
    (hcolumn : ¬ Text.IsPlain column) (tables : String) :
    ∃ front back, b.selectBase tables = front ++ ";" ++ back ∧ Text.HasInk front ∧
      Text.HasInk back := by
  have hmem : column ++ " " ++ direction.sql ∈ b.clauses.texts .orderBy :=
    List.mem_filterMap.2 ⟨_, h, rfl⟩
  -- There is an order, so the clause is rendered.
  obtain ⟨order, horder⟩ : ∃ order, b.clauses.joined? .orderBy = some order := by
    rw [Clauses.joined?]
    split
    · rename_i hnil
      rw [hnil] at hmem
      exact absurd hmem List.not_mem_nil
    · exact ⟨_, rfl⟩
  obtain ⟨start, rest, hbase, hink⟩ := b.exists_selectBase_eq tables
  obtain ⟨before, after, heq⟩ := exists_intercalate_eq Clause.orderBy.separator hmem
  obtain ⟨c₁, c₂, rfl⟩ := Text.exists_append_of_not_isPlain hcolumn
  -- Behind the column stands its direction, which is ink.
  have hdirection : Text.HasInk direction.sql := by
    cases direction with
    | descending => exact ⟨'D', by decide, by decide, by decide⟩
    | ascending => exact ⟨'A', by decide, by decide, by decide⟩
  refine ⟨start ++ " ORDER BY " ++ before ++ c₁, c₂ ++ " " ++ direction.sql ++ after ++ rest, ?_,
    ((hink.append _).append _).append _, ((hdirection.append_left _).append _).append _⟩
  rw [hbase, horder, clauseText, Clauses.joined?_eq_some horder, heq]
  simp only [String.append_assoc]

/-- There are more statements than asked for if an order has a semicolon. -/
theorem statementCount_lt_of_order (hmode : b.mode = .select) {column : String}
    {direction : Direction} (h : .text (column ++ " " ++ direction.sql) ∈ b.clauses.get .orderBy)
    (hcolumn : ¬ Text.IsPlain column) {sql : String} (hsql : b.render = .ok sql) :
    b.statementCount < (Statement.piecesOf sql).length := by
  have hselect : b.renderSelect = .ok sql := by rwa [render, hmode] at hsql
  obtain ⟨tables, htables⟩ := exists_joined?_of_renderSelect hselect
  obtain ⟨front, back, hbase, hfront, hback⟩ := exists_selectBase_eq_of_order h hcolumn tables
  -- Whatever stands behind it, the query of the rows has a statement on each side.
  have hrows : ∀ tail : String,
      1 < (Statement.piecesOf (b.selectBase tables ++ tail)).length := fun tail => by
    have hpos₁ := Statement.length_piecesOf_pos hfront
    have hpos₂ := Statement.length_piecesOf_pos (hback.append tail)
    rw [hbase, String.append_assoc, Statement.piecesOf_append, List.length_append]
    omega
  rw [statementCount_of_select hmode, countsRows]
  cases hpage : b.clauses.page? with
  | none =>
    rw [render_unpaged_select hmode htables hpage] at hsql
    obtain rfl := Except.ok.inj hsql
    exact hrows b.lockText
  | some w =>
    rw [render_paged_select hmode htables hpage] at hsql
    obtain rfl := Except.ok.inj hsql
    have htail := hrows (b.pageTail w)
    cases hcount : w.countRows with
    | true =>
      -- The count query adds a statement, as it was asked to.
      have hcounted := Statement.length_piecesOf_pos
        (hasInk_countQuery (b.selectBase tables) w.totals)
      rw [if_pos rfl, ← String.append_assoc, Statement.piecesOf_append, List.length_append,
        Option.any_some, hcount, if_pos rfl]
      omega
    | false =>
      rw [if_neg Bool.false_ne_true, String.append_empty, Option.any_some, hcount,
        if_neg Bool.false_ne_true]
      exact htail

end Builder

end SqlAssembly
