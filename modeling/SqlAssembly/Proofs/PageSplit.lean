import SqlAssembly.Proofs.StatementText

/-! # Splitting a paged statement

The renderer puts a count query behind a paged row query, and `Statement.splitPage` finds it again
by the first occurrence of `Statement.countMark`.  The mark cannot occur earlier unless the query
without its page contains it: it would have to start in that query and go on into the limit of the
page, and nowhere inside the mark does ` L` follow.

* `Text.cutChars?_append`     a separator is found behind a text that it does not reach into
* `Builder.unpaged`           the builder without page and lock
* `Builder.splitPage_build`   the two queries of a paged statement -/

namespace SqlAssembly

namespace Text

/-- No occurrence of `sep` in `pre ++ rest` starts inside `pre`. -/
def IsClear (sep pre rest : List Char) : Prop :=
  ∀ s t, pre = s ++ t → t ≠ [] → ¬ sep <+: t ++ rest

/-- A text in which no occurrence starts is skipped as a whole. -/
theorem cutChars?_append {sep pre rest : List Char} (h : IsClear sep pre rest) :
    cutChars? sep (pre ++ rest) = (cutChars? sep rest).map fun p => (pre ++ p.1, p.2) := by
  induction pre with
  | nil => simp
  | cons c cs ih =>
    -- No occurrence starts here, and none in the rest of `pre`.
    have hhere : ¬ sep <+: c :: (cs ++ rest) := h [] _ rfl (List.cons_ne_nil c cs)
    have hrest : IsClear sep cs rest := by
      intro s t hcs
      exact h (c :: s) t (by rw [hcs, List.cons_append])
    rw [List.cons_append, cutChars?, if_neg (by rwa [List.isPrefixOf_iff_prefix]), ih hrest,
      Option.map_map]
    rfl

/-- A separator that starts a text is found there. -/
private theorem cutChars?_self_append {sep : List Char} (hsep : sep ≠ []) (rest : List Char) :
    cutChars? sep (sep ++ rest) = some ([], rest) := by
  obtain ⟨c, cs, rfl⟩ := List.exists_cons_of_ne_nil hsep
  have hpre : (c :: cs).isPrefixOf (c :: (cs ++ rest)) = true := by
    rw [List.isPrefixOf_iff_prefix, ← List.cons_append]
    exact List.prefix_append _ _
  rw [List.cons_append, cutChars?, if_pos hpre, ← List.cons_append, List.drop_left]

private theorem cutChars?_nil {sep : List Char} (hsep : sep ≠ []) : cutChars? sep [] = none := by
  rw [cutChars?, if_neg (by rwa [List.isEmpty_iff])]

/-- A separator does not start in a text that lacks its first character. -/
private theorem isClear_of_not_mem {c : Char} {cs mid : List Char} (h : c ∉ mid)
    (rest : List Char) : IsClear (c :: cs) mid rest := by
  rintro s t rfl hne hpre
  obtain ⟨d, t, rfl⟩ := List.exists_cons_of_ne_nil hne
  -- An occurrence would bring its first character along.
  have hcd : c = d := (List.cons_prefix_cons.1 hpre).1
  exact h (List.mem_append_right s (hcd ▸ List.mem_cons_self))

/-- An occurrence that starts in a text without one reaches into what follows, where the rest of
    the separator would have to stand. -/
theorem IsClear.append {sep pre mid rest : List Char} (hpre : ¬ sep <:+: pre)
    (hedge : ∀ u v, sep = u ++ v → u ≠ [] → v ≠ [] → ¬ v <+: mid ++ rest)
    (hmid : IsClear sep mid rest) : IsClear sep (pre ++ mid) rest := by
  intro s t heq hne hsep
  rcases List.append_eq_append_iff.1 heq with ⟨r, -, hr⟩ | ⟨r, hr, rfl⟩
  · -- The occurrence starts inside `mid`.
    exact hmid r t hr hne hsep
  · -- The occurrence starts in front of `mid`, so it lies in `r` or ends behind it.
    have hout : ¬ sep <:+: r := fun h => hpre (hr ▸ h.trans (List.suffix_append s r).isInfix)
    obtain ⟨w, hw⟩ := hsep
    rw [List.append_assoc] at hw
    rcases List.append_eq_append_iff.1 hw with ⟨x, hx, -⟩ | ⟨v, hv, hrest⟩
    · exact hout (hx ▸ (List.prefix_append sep x).isInfix)
    · by_cases hr' : r = []
      · subst hr'
        exact hmid [] mid rfl hne ⟨w, hw⟩
      · refine hedge r v hv hr' ?_ ⟨w, hrest.symm⟩
        rintro rfl
        rw [List.append_nil] at hv
        exact hout (hv ▸ List.infix_refl r)

end Text

namespace Statement

/-- The mark of a count query cannot start in one text and go on with ` L` behind it. -/
private theorem countMark_edge {u v : List Char} (h : countMark.toList = u ++ v) (hu : u ≠ [])
    (hv : v ≠ []) (rest : List Char) : ¬ v <+: ' ' :: 'L' :: rest := by
  -- At no place inside the mark do these two characters follow, which is checked place by place.
  have hscan : ∀ k < countMark.toList.length, 0 < k →
      ¬ (countMark.toList.drop k).take 2 <+: [' ', 'L'] := by decide
  have hlt : u.length < countMark.toList.length := by
    have hpos := List.length_pos_iff.2 hv
    rw [h, List.length_append]
    omega
  intro hpre
  have hnot := hscan u.length hlt (List.length_pos_iff.2 hu)
  rw [h, List.drop_left] at hnot
  refine hnot (List.prefix_of_prefix_length_le ((List.take_prefix 2 v).trans hpre)
    (List.prefix_append [' ', 'L'] rest) ?_)
  rw [List.length_take]
  exact Nat.min_le_left _ _

/-- The row query ends in front of the first mark. -/
theorem splitPage_of_mark {s : Statement} {rows rest : String}
    (hclear : Text.IsClear countMark.toList rows.toList (countMark.toList ++ rest.toList))
    (hsql : s.sql = rows ++ countMark ++ rest) :
    s.splitPage = (rows, some ("SELECT COUNT(0)" ++ rest)) := by
  have hcut : Text.cutAt? countMark s.sql = some (rows, rest) := by
    rw [Text.cutAt?, hsql, String.toList_append, String.toList_append, List.append_assoc,
      Text.cutChars?_append hclear, Text.cutChars?_self_append (by decide)]
    simp
  rw [splitPage, hcut]
  rfl

/-- Without a mark there is no count query. -/
theorem splitPage_of_no_mark {s : Statement}
    (hclear : Text.IsClear countMark.toList s.sql.toList []) : s.splitPage = (s.sql, none) := by
  have hcut : Text.cutAt? countMark s.sql = none := by
    -- Nothing is cut where no occurrence starts.
    have h := Text.cutChars?_append hclear
    rw [List.append_nil, Text.cutChars?_nil (by decide)] at h
    rw [Text.cutAt?, h]
    rfl
  rw [splitPage, hcut]

end Statement

namespace Builder

/-- The builder without its page and its lock. -/
def unpaged (b : Builder) : Builder :=
  { b with clauses := ((b.clauses.remove .page).2.remove .forUpdate).2 }

private theorem selectBase_unpaged (b : Builder) (tables : String) :
    b.unpaged.selectBase tables = b.selectBase tables := by
  rfl

theorem render_unpaged {b : Builder} {tables : String} (hmode : b.mode = .select)
    (htables : b.clauses.joined? .table = some tables) :
    b.unpaged.render = .ok (b.selectBase tables) := by
  have htables' : b.unpaged.clauses.joined? .table = some tables := htables
  have hlock : b.unpaged.lockText = "" := rfl
  rw [render_unpaged_select (b := b.unpaged) hmode htables' rfl, selectBase_unpaged, hlock,
    String.append_empty]

/-- No mark starts in what a page adds. -/
private theorem isClear_pageTail (b : Builder) (w : PageWindow) (rest : List Char) :
    Text.IsClear Statement.countMark.toList (b.pageTail w).toList rest := by
  have hmark : Statement.countMark.toList = ';' :: "SELECT COUNT(0)".toList := rfl
  rw [hmark]
  exact Text.isClear_of_not_mem
    (not_mem_pageTail (by decide) (by decide) (by decide) b w) rest

/-- No mark starts in a paged row query if there is none in the query without the page. -/
private theorem isClear_rows {b : Builder} {base : String} (w : PageWindow)
    (hbase : ¬ Statement.countMark.toList <:+: base.toList) (rest : List Char) :
    Text.IsClear Statement.countMark.toList (base ++ b.pageTail w).toList rest := by
  rw [String.toList_append]
  refine Text.IsClear.append hbase ?_ (isClear_pageTail b w rest)
  intro u v h hu hv
  -- An occurrence that begins in the query would have to go on with the limit.
  have htail : (b.pageTail w).toList ++ rest =
      ' ' :: 'L' :: ((b.pageTail w).toList.drop 2 ++ rest) := by
    simp [pageTail, String.toList_append]
  rw [htail]
  exact Statement.countMark_edge h hu hv _

/-- A count query starts with the mark, but for the semicolon. -/
private theorem exists_countQuery (base totals : String) :
    ∃ rest, countQuery base totals = "SELECT COUNT(0)" ++ rest ∧
      ";" ++ countQuery base totals = Statement.countMark ++ rest := by
  have hquery : "SELECT COUNT(0) AS Count" = "SELECT COUNT(0)" ++ " AS Count" := by decide
  have hmark : Statement.countMark = ";" ++ "SELECT COUNT(0)" := by decide
  refine ⟨" AS Count" ++ ((if totals = "" then "" else ", " ++ totals) ++ (" FROM (" ++
    (base ++ ") AS CT"))), ?_, ?_⟩
  · unfold countQuery
    rw [hquery]
    simp only [String.append_assoc, -String.reduceAppend]
  · unfold countQuery
    rw [hquery, hmark]
    simp only [String.append_assoc, -String.reduceAppend]

/-- Splitting the text of a paged query gives the query of the rows and the count query. -/
private theorem splitPage_paged {b : Builder} {base : String} {w : PageWindow} {s : Statement}
    (hbase : ¬ Statement.countMark.toList <:+: base.toList)
    (hsql : s.sql =
      base ++ b.pageTail w ++ if w.countRows then ";" ++ countQuery base w.totals else "") :
    s.splitPage =
      (base ++ b.pageTail w, if w.countRows then some (countQuery base w.totals) else none) := by
  cases hcount : w.countRows with
  | true =>
    -- The count query brings the first mark, with the rest of the query behind it.
    obtain ⟨rest, hquery, hmark⟩ := exists_countQuery base w.totals
    rw [hcount, if_pos rfl, hmark, ← String.append_assoc] at hsql
    rw [Statement.splitPage_of_mark (isClear_rows w hbase _) hsql, if_pos rfl, hquery]
  | false =>
    rw [hcount, if_neg Bool.false_ne_true, String.append_empty] at hsql
    -- Without it the text ends in front of any mark.
    have hclear : Text.IsClear Statement.countMark.toList s.sql.toList [] := by
      rw [hsql]
      exact isClear_rows w hbase []
    rw [Statement.splitPage_of_no_mark hclear, hsql, if_neg Bool.false_ne_true]

/-- A clause with a text among its fragments has a joined text. -/
private theorem exists_joined? {c : Clauses} {k : Clause} (h : ∃ text, .text text ∈ c.get k) :
    ∃ joined, c.joined? k = some joined := by
  obtain ⟨text, htext⟩ := h
  have hmem : text ∈ c.texts k := List.mem_filterMap.2 ⟨_, htext, rfl⟩
  rw [Clauses.joined?]
  split
  · rename_i hnil
    rw [hnil] at hmem
    exact absurd hmem List.not_mem_nil
  · exact ⟨_, rfl⟩

/-- A SELECT with a table and a page is rendered, and unless the query without page and lock
    contains the mark of a count query, splitting it gives the query of the rows, with the limit of
    the page and the lock, and the count query, which has neither. -/
theorem splitPage_build {b : Builder} {w : PageWindow} (hmode : b.mode = .select)
    (htable : ∃ name, .text name ∈ b.clauses.get .table) (hpage : b.clauses.page? = some w) :
    ∃ base s, b.unpaged.render = .ok base ∧ b.build = .ok s ∧
      (¬ Statement.countMark.toList <:+: base.toList →
        s.splitPage =
          (base ++ " LIMIT " ++ Json.intText w.offset ++ "," ++ Json.intText w.size.val ++
              (if b.clauses.has .forUpdate then " FOR UPDATE" else ""),
            if w.countRows then
              some ("SELECT COUNT(0) AS Count" ++ (if w.totals = "" then "" else ", " ++ w.totals)
                ++ " FROM (" ++ base ++ ") AS CT")
            else none)) := by
  obtain ⟨tables, htables⟩ := exists_joined? htable
  refine ⟨b.selectBase tables, _, render_unpaged hmode htables,
    congrArg (Except.map _) (render_paged_select hmode htables hpage), fun hbase => ?_⟩
  rw [splitPage_paged hbase rfl]
  unfold pageTail lockText countQuery
  simp only [String.append_assoc]

/-- A query that ends in the front half of the mark, with totals that contain all of it. -/
theorem splitPage_build_half_mark :
    let b := empty.run [.table "t;SELECT", .forUpdate,
      .page (IntWidth.int32.clamp 2) (IntWidth.int32.clamp 20) true "1;SELECT COUNT(0)"]
    ∃ s, b.build = .ok s ∧
      s.splitPage =
        ("SELECT * FROM t;SELECT LIMIT 20,20 FOR UPDATE",
          some "SELECT COUNT(0) AS Count, 1;SELECT COUNT(0) FROM (SELECT * FROM t;SELECT) AS CT") := by
  intro b
  have htable : b.clauses.get .table = [.text "t;SELECT"] := rfl
  have htables : b.clauses.joined? .table = some "t;SELECT" := rfl
  have hpage : b.clauses.page? =
      some ⟨20, IntWidth.int32.clamp 20, true, "1;SELECT COUNT(0)"⟩ := rfl
  have hlock : b.clauses.has .forUpdate = true := rfl
  have hbase : b.selectBase "t;SELECT" = "SELECT * FROM t;SELECT" := rfl
  have hrender := render_unpaged (b := b) rfl htables
  have hoffset : Json.intText 20 = "20" := by decide +kernel
  have hsize : Json.intText (IntWidth.int32.clamp 20).val = "20" := hoffset
  have hmember : Fragment.text "t;SELECT" ∈ b.clauses.get .table := by
    rw [htable]
    exact List.mem_singleton_self _
  obtain ⟨base, s, hunpaged, hs, hsplit⟩ := splitPage_build (b := b) rfl ⟨_, hmember⟩ hpage
  rw [hrender, hbase] at hunpaged
  obtain rfl := Except.ok.inj hunpaged
  -- The whole mark has a bracket, and the query has none.
  have hmark : ¬ Statement.countMark.toList <:+: "SELECT * FROM t;SELECT".toList := by
    intro hin
    have hparen : '(' ∈ Statement.countMark.toList := by decide
    exact absurd (hin.subset hparen) (by decide)
  refine ⟨s, hs, ?_⟩
  rw [hsplit hmark, hlock, hoffset, hsize]
  decide

end Builder

end SqlAssembly
