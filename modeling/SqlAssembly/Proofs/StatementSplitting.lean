import SqlAssembly.Proofs.PageSplit
import SqlAssembly.Proofs.RunFragments
import SqlAssembly.Proofs.StatementPieces

/-! # Splitting a text gives back its statements

A builder joins a second statement to the main one by a semicolon, and a text is split at its
semicolons.  If the texts of the calls have none, splitting gives the main statement and the second
one again.  Whatever the text is, nothing but semicolons and the blanks around them gets lost.

* `Text.semicolonInduction`             texts as texts without semicolons, joined by them
* `Text.IsGap`                          a text of blanks and semicolons
* `Statement.MadeOf`                    a text made of pieces, with gaps around them
* `Statement.madeOf_piecesOf`           every text is made of its statements
* `Builder.pieces_build`                the statements of a built text -/

namespace SqlAssembly

/-! ## Texts with semicolons -/

namespace Text

/-- Every text is joined by semicolons from texts that have none. -/
theorem semicolonInduction {motive : String → Prop} (plain : ∀ s, IsPlain s → motive s)
    (join : ∀ a b, motive a → motive b → motive (a ++ ";" ++ b)) (s : String) : motive s := by
  by_cases h : IsPlain s
  · exact plain s h
  · obtain ⟨a, b, heq⟩ := exists_append_of_not_isPlain h
    -- Both sides of the semicolon are shorter than the text.
    have hlength : s.length = a.length + 1 + b.length := by
      rw [heq, String.length_append, String.length_append]
      rfl
    rw [heq]
    exact join a b (semicolonInduction plain join a) (semicolonInduction plain join b)
termination_by s.length
decreasing_by all_goals omega

/-- Whether a text is made of blanks and semicolons. -/
def IsGap (s : String) : Prop := ∀ c ∈ s.toList, c = ';' ∨ isBlank c = true

theorem IsGap.append {a b : String} (ha : IsGap a) (hb : IsGap b) : IsGap (a ++ b) := by
  intro c hc
  rw [String.toList_append, List.mem_append] at hc
  exact hc.elim (ha c) (hb c)

private theorem isGap_semicolon : IsGap ";" := fun _ hc => .inl (List.mem_singleton.1 hc)

/-- A text has only blanks around what trimming leaves of it. -/
private theorem exists_eq_append_trim (s : String) :
    ∃ front back, IsGap front ∧ IsGap back ∧ s = front ++ trim s ++ back := by
  have hblank : ∀ cs : List Char, IsGap (String.ofList (cs.takeWhile isBlank)) := by
    intro cs c hc
    rw [String.toList_ofList] at hc
    exact .inr (List.mem_takeWhile_imp hc)
  -- What is behind the blanks in front is trimmed from its end.
  let rest := s.toList.dropWhile isBlank
  refine ⟨String.ofList (s.toList.takeWhile isBlank),
    String.ofList (rest.reverse.takeWhile isBlank).reverse, hblank _, ?_, ?_⟩
  · intro c hc
    rw [String.toList_ofList, List.mem_reverse] at hc
    exact .inr (List.mem_takeWhile_imp hc)
  · have hrest : trimChars s.toList ++ (rest.reverse.takeWhile isBlank).reverse = rest := by
      rw [trimChars, trimRight, ← List.reverse_append, trimLeft, List.takeWhile_append_dropWhile,
        List.reverse_reverse]
    apply String.toList_inj.1
    calc s.toList = s.toList.takeWhile isBlank ++ rest :=
          List.takeWhile_append_dropWhile.symm
      _ = s.toList.takeWhile isBlank ++ trimChars s.toList ++
          (rest.reverse.takeWhile isBlank).reverse := by
          rw [List.append_assoc, hrest]
      _ = _ := by
          rw [String.toList_append, String.toList_append, toList_trim, String.toList_ofList,
            String.toList_ofList]

/-- Trimming brings in no semicolon. -/
private theorem isPlain_trim {s : String} (h : IsPlain s) : IsPlain (trim s) := by
  obtain ⟨front, back, -, -, heq⟩ := exists_eq_append_trim s
  rw [heq, isPlain_append, isPlain_append] at h
  exact h.1.2

end Text

namespace Statement

/-- Whether a text is made of pieces: they stand in it in their order, with nothing but blanks and
    semicolons in front of, between and behind them. -/
inductive MadeOf : List String → String → Prop
  | gap {g : String} (hg : Text.IsGap g) : MadeOf [] g
  | piece {g rest : String} {ps : List String} (hg : Text.IsGap g) (p : String)
    (hrest : MadeOf ps rest) : MadeOf (p :: ps) (g ++ p ++ rest)

namespace MadeOf

variable {ps qs : List String} {a b : String}

/-- There may be a gap in front. -/
theorem append_left {g : String} (hg : Text.IsGap g) (h : MadeOf ps a) : MadeOf ps (g ++ a) := by
  cases h with
  | gap ha => exact gap (hg.append ha)
  | piece ha p hrest =>
    -- The gap in front of the first piece gets longer.
    rw [← String.append_assoc, ← String.append_assoc]
    exact piece (hg.append ha) p hrest

/-- One text behind another is made of the pieces of both. -/
theorem append (ha : MadeOf ps a) (hb : MadeOf qs b) : MadeOf (ps ++ qs) (a ++ b) := by
  -- The gap behind the last piece of the one becomes part of the gap in front of the other.
  induction ha with
  | gap hg => exact hb.append_left hg
  | piece hg p _ ih =>
    rw [String.append_assoc]
    exact piece hg p ih

end MadeOf

/-- Every text is made of its statements. -/
theorem madeOf_piecesOf (s : String) : MadeOf (piecesOf s) s := by
  induction s using Text.semicolonInduction with
  | plain s h =>
    obtain ⟨front, back, hfront, hback, heq⟩ := Text.exists_eq_append_trim s
    rw [piecesOf_eq_ite h]
    split
    · -- A text of blanks is a gap itself.
      rename_i hempty
      rw [hempty, String.append_empty] at heq
      rw [heq]
      exact .gap (hfront.append hback)
    · have hmade := MadeOf.piece hfront (Text.trim s) (.gap hback)
      rwa [← heq] at hmade
  | join a b ha hb =>
    -- The semicolon is a gap without a piece in front of it.
    rw [piecesOf_append, ← List.append_nil (piecesOf a)]
    exact (ha.append (.gap Text.isGap_semicolon)).append hb

/-- The statements of a text have no semicolon. -/
private theorem isPlain_of_mem_piecesOf {s piece : String} (h : piece ∈ piecesOf s) :
    Text.IsPlain piece := by
  induction s using Text.semicolonInduction with
  | plain s hs =>
    rw [piecesOf_eq_ite hs] at h
    split at h
    · exact absurd h List.not_mem_nil
    · rw [List.mem_singleton.1 h]
      exact Text.isPlain_trim hs
  | join a b ha hb =>
    rw [piecesOf_append, List.mem_append] at h
    exact h.elim ha hb

end Statement

/-! ## Built statements -/

namespace Builder

variable {b : Builder}

/-- A rendered query is also rendered without page and lock. -/
theorem render_unpaged_eq_baseText (hmode : b.mode = .select) {sql : String}
    (hsql : b.render = .ok sql) : b.unpaged.render = .ok b.baseText := by
  rw [render, hmode] at hsql
  obtain ⟨tables, htables⟩ := exists_joined?_of_renderSelect hsql
  rw [render_unpaged hmode htables, baseText, htables]
  rfl

/-- **Splitting a text gives back its statements.**  If the texts of the calls have no semicolon, a
    built text falls into the main statement and the second one, if that was asked for: the count
    query of a page, or the query for the identity of the row of an INSERT.  No statement has a
    semicolon, and the text is made of them. -/
theorem pieces_build {calls : List Call} (hcalls : ∀ call ∈ calls, call.IsPlain) {s : Statement}
    (hbuild : (empty.run calls).build = .ok s) :
    let b := empty.run calls
    (∃ main, b.single.render = .ok main ∧
      (∀ w, b.mode = .select → b.clauses.page? = some w → w.countRows = true →
        ∃ base, b.unpaged.render = .ok base ∧
          s.pieces = [Text.trim main, Text.trim (countQuery base w.totals)]) ∧
      (b.mode = .insert → b.identity = true →
        s.pieces = [Text.trim main, "SELECT LAST_INSERT_ID() AS id"]) ∧
      (¬ (b.mode = .select ∧ b.countsRows = true ∨ b.mode = .insert ∧ b.identity = true) →
        s.pieces = [Text.trim main])) ∧
      (b.identity = true ↔ ∃ before call after, calls = before ++ call :: after ∧
        lastMode .select before = .insert ∧ call.asksIdentity = true) ∧
      (∀ piece ∈ s.pieces, ';' ∉ piece.toList) ∧ Statement.MadeOf s.pieces s.sql := by
  intro b
  -- The builder starts without fragments, and the calls add none with a semicolon.
  have hplain : ∀ k, b.clauses.IsPlain k :=
    isPlain_clauses_run (fun _ _ hf => absurd hf List.not_mem_nil) hcalls
  have hrender : b.render = .ok s.sql := render_of_build hbuild
  obtain ⟨main, hmain, hpieces⟩ := fallsApart_render (fun k _ => hplain k) hrender
  refine ⟨⟨main, hmain, fun w hmode hpage hcount => ?_, fun hmode hidentity => ?_, fun hone => ?_⟩,
    ?_, fun piece hpiece => Statement.isPlain_of_mem_piecesOf hpiece,
    Statement.madeOf_piecesOf s.sql⟩
  · refine ⟨b.baseText, render_unpaged_eq_baseText hmode hrender, ?_⟩
    have hsecond : b.second? = some (countQuery b.baseText w.totals) := by
      simp [second?, hmode, hpage, hcount, Option.filter]
    rw [Statement.pieces, hpieces, hsecond]
    rfl
  · have hsecond : b.second? = some "SELECT LAST_INSERT_ID() AS id" := by
      simp [second?, hmode, hidentity]
    have htrim : Text.trim "SELECT LAST_INSERT_ID() AS id" = "SELECT LAST_INSERT_ID() AS id" := by
      decide
    rw [Statement.pieces, hpieces, hsecond, Option.map_some, htrim]
    rfl
  · -- One statement is asked for, so that there is no second one.
    have hcount := b.statementCount_eq
    rw [statementCount, if_neg hone] at hcount
    have hsecond : b.second? = none := by
      cases hsecond : b.second? with
      | none => rfl
      | some text =>
        rw [hsecond, Option.toList_some, List.length_singleton] at hcount
        omega
    rw [Statement.pieces, hpieces, hsecond]
    rfl
  · rw [identity_run_iff]
    exact or_iff_right Bool.false_ne_true

/-- An INSERT that asks for the identity of the new row.  The value has a semicolon, which does not
    come into the text. -/
def identifiedInsert : List Call :=
  [.insert " orders ", .value "state" (.text "new;"), .selectIdentity]

/-- It falls into the INSERT and the query for the identity. -/
theorem pieces_build_identifiedInsert :
    (∀ call ∈ identifiedInsert, call.IsPlain) ∧
      ∃ s, (empty.run identifiedInsert).build = .ok s ∧
        s.pieces = ["INSERT INTO  orders  (state) VALUES (@state)",
          "SELECT LAST_INSERT_ID() AS id"] := by
  have hcalls : ∀ call ∈ identifiedInsert, call.IsPlain := by
    simp only [identifiedInsert, List.forall_mem_cons]
    exact ⟨(by decide : Text.IsPlain " orders "), (by decide : Text.IsPlain "state"), trivial,
      fun call h => absurd h List.not_mem_nil⟩
  obtain ⟨s, hbuild⟩ : ∃ s, (empty.run identifiedInsert).build = .ok s := ⟨_, rfl⟩
  obtain ⟨⟨main, hmain, -, hinsert, -⟩, -⟩ := pieces_build hcalls hbuild
  have hmain' : (empty.run identifiedInsert).single.render =
      .ok "INSERT INTO  orders  (state) VALUES (@state)" := rfl
  obtain rfl := Except.ok.inj (hmain.symm.trans hmain')
  refine ⟨hcalls, s, hbuild, ?_⟩
  rw [hinsert rfl rfl]
  decide

end Builder

end SqlAssembly
