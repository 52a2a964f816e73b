import SqlAssembly.Proofs.PlaceholderTokens
import SqlAssembly.Proofs.StatementText

/-! # Placeholders of rendered statements

All that the renderer puts between fragments is glue, so the placeholders of a statement are those
of its fragments, in the order in which the fragments stand.  A count query repeats those of the
query that it counts.

* `Fragment.tokens`             the placeholders of a fragment
* `Clauses.tokens`              the placeholders of the texts of a clause
* `Builder.tokens_selectBase`   the placeholders of a query up to its limit
* `Builder.mem_tokens_render`   a placeholder of a statement stands in one of its fragments -/

namespace SqlAssembly

open Placeholder

/-- The placeholders of a fragment. -/
def Fragment.tokens : Fragment → List String
  | text s => Placeholder.tokens s
  | column field value => Placeholder.tokens field ++ Placeholder.tokens value
  | duplicate field value => Placeholder.tokens field ++ Placeholder.tokens value
  | limit .. => []
  | page window => Placeholder.tokens window.totals
  | forUpdate => []

namespace Clauses

/-- The placeholders of the texts of a clause. -/
def tokens (c : Clauses) (k : Clause) : List String := (c.texts k).flatMap Placeholder.tokens

private theorem isGlue_separator (k : Clause) : isGlue k.separator = true := by
  cases k <;> decide

private theorem tokens_eq_of_joined? {c : Clauses} {k : Clause} {s : String}
    (h : c.joined? k = some s) : Placeholder.tokens s = c.tokens k := by
  rw [joined?] at h
  split at h
  · exact nomatch h
  · rw [← Option.some.inj h, tokens_intercalate (isGlue_separator k), tokens]

private theorem tokens_eq_nil_of_joined? {c : Clauses} {k : Clause} (h : c.joined? k = none) :
    c.tokens k = [] := by
  rw [joined?] at h
  split at h
  · rename_i hnil
    rw [tokens, hnil, List.flatMap_nil]
  · exact nomatch h

private theorem mem_of_mem_tokens {c : Clauses} {k : Clause} {t : String} (h : t ∈ c.tokens k) :
    ∃ f ∈ c.get k, t ∈ f.tokens := by
  obtain ⟨s, hs, ht⟩ := List.mem_flatMap.1 h
  obtain ⟨f, hf, hfs⟩ := List.mem_filterMap.1 hs
  -- Only a text among the fragments has texts.
  cases f with
  | text s' =>
    obtain rfl := Option.some.inj hfs
    exact ⟨_, hf, ht⟩
  | _ => exact nomatch hfs

end Clauses

namespace Builder

/-- Behind a text, a clause brings the placeholders of its texts. -/
private theorem tokens_append_clauseText {lead : String} (hlead : isGlue lead = true) (a : String)
    (c : Clauses) (k : Clause) :
    tokens (a ++ clauseText lead (c.joined? k)) = tokens a ++ c.tokens k := by
  -- An absent clause brings neither its keyword nor placeholders.
  cases h : c.joined? k with
  | none => rw [clauseText, String.append_empty, c.tokens_eq_nil_of_joined? h, List.append_nil]
  | some s => rw [clauseText, ← String.append_assoc, tokens_glue hlead, c.tokens_eq_of_joined? h]

private theorem tokens_append_conditionText (a : String) (b : Builder) :
    tokens (a ++ b.conditionText) = tokens a ++ b.clauses.tokens .condition :=
  tokens_append_clauseText (by decide) a b.clauses .condition

/-- An explicit limit is glue. -/
private theorem isGlue_limit (offset rows : Int) :
    isGlue (" LIMIT " ++ Json.intText offset ++ "," ++ Json.intText rows) = true := by
  -- Numbers have no at sign, so the limit is its keyword with harmless text behind.
  have hoffset := Json.not_mem_intText (c := '@') (by decide) (by decide) offset
  have hrows := Json.not_mem_intText (c := '@') (by decide) (by decide) rows
  exact isGlue_append (isGlue_append (isGlue_append (by decide) hoffset) (by decide)) hrows

/-- The placeholders of a query up to its limit. -/
theorem tokens_selectBase (b : Builder) (tables : String) :
    tokens (b.selectBase tables) =
      b.clauses.tokens .select ++ tokens tables ++ b.clauses.tokens .join ++
        b.clauses.tokens .condition ++ b.clauses.tokens .groupBy ++ b.clauses.tokens .orderBy := by
  -- The columns, or the star, which has no placeholder.
  have hcolumns :
      tokens ("SELECT " ++ (b.clauses.joined? .select).getD "*") = b.clauses.tokens .select := by
    rw [tokens_append_of_not_mem (by decide)]
    cases h : b.clauses.joined? .select with
    | none => rw [b.clauses.tokens_eq_nil_of_joined? h]; decide
    | some s => exact b.clauses.tokens_eq_of_joined? h
  -- From the last clause to the first, each behind the text in front of it.
  have hclauses :
      tokens ("SELECT " ++ (b.clauses.joined? .select).getD "*" ++ " FROM " ++ tables ++
        clauseText " " (b.clauses.joined? .join) ++ b.conditionText ++
        clauseText " GROUP BY " (b.clauses.joined? .groupBy) ++
        clauseText " ORDER BY " (b.clauses.joined? .orderBy)) =
      b.clauses.tokens .select ++ tokens tables ++ b.clauses.tokens .join ++
        b.clauses.tokens .condition ++ b.clauses.tokens .groupBy ++ b.clauses.tokens .orderBy := by
    rw [tokens_append_clauseText (by decide), tokens_append_clauseText (by decide),
      tokens_append_conditionText, tokens_append_clauseText (by decide), tokens_glue (by decide),
      hcolumns]
  unfold selectBase
  cases b.clauses.limit? with
  | none => rw [String.append_empty, hclauses]
  | some limit => rw [tokens_append_of_isGlue (isGlue_limit _ _), hclauses]

/-- The placeholders of a count query: those of its columns and of the query that it counts. -/
private theorem tokens_countQuery (base totals : String) :
    tokens (countQuery base totals) = tokens totals ++ tokens base := by
  unfold countQuery
  rw [tokens_append_of_isGlue (by decide), tokens_glue (by decide)]
  -- The totals are left out with their comma if there are none.
  split
  · rename_i h
    subst h
    rfl
  · rw [← String.append_assoc, tokens_glue (by decide)]
    rfl

/-! ## Statements -/

/-- A placeholder that stands in a fragment of a builder. -/
def Mentions (b : Builder) (t : String) : Prop := ∃ k, ∃ f ∈ b.clauses.get k, t ∈ f.tokens

private theorem mentions_of_mem_tokens {b : Builder} {k : Clause} {t : String}
    (h : t ∈ b.clauses.tokens k) : b.Mentions t :=
  ⟨k, Clauses.mem_of_mem_tokens h⟩

/-- The placeholders of the query up to its limit stand in fragments. -/
private theorem mentions_of_mem_selectBase {b : Builder} {tables t : String}
    (htables : b.clauses.joined? .table = some tables) (h : t ∈ tokens (b.selectBase tables)) :
    b.Mentions t := by
  rw [tokens_selectBase, b.clauses.tokens_eq_of_joined? htables] at h
  simp only [List.mem_append] at h
  rcases h with ((((h | h) | h) | h) | h) | h <;> exact mentions_of_mem_tokens h

private theorem isGlue_pageTail (b : Builder) (w : PageWindow) : isGlue (b.pageTail w) = true := by
  refine isGlue_append (isGlue_limit _ _) ?_
  rw [lockText]
  split <;> decide

/-- The lock has no placeholders. -/
private theorem tokens_append_lockText (a : String) (b : Builder) :
    tokens (a ++ b.lockText) = tokens a := by
  rw [lockText]
  split
  · exact tokens_append_of_isGlue (by decide) a
  · rw [String.append_empty]

private theorem mentions_of_mem_renderSelect {b : Builder} {sql t : String}
    (hmode : b.mode = .select) (hsql : b.render = .ok sql) (h : t ∈ tokens sql) : b.Mentions t := by
  have hselect : b.renderSelect = .ok sql := by rwa [render, hmode] at hsql
  obtain ⟨tables, htables⟩ := exists_joined?_of_renderSelect hselect
  cases hpage : b.clauses.page? with
  | none =>
    -- without a page, the query and its lock
    rw [render_unpaged_select hmode htables hpage] at hsql
    rw [← Except.ok.inj hsql, tokens_append_lockText] at h
    exact mentions_of_mem_selectBase htables h
  | some w =>
    rw [render_paged_select hmode htables hpage] at hsql
    rw [← Except.ok.inj hsql] at h
    split at h
    · rw [← String.append_assoc, tokens_glue (by decide), tokens_countQuery,
        tokens_append_of_isGlue (isGlue_pageTail b w)] at h
      -- The query stands there twice, once for its rows and once to be counted.
      rcases List.mem_append.1 h with h | h
      · exact mentions_of_mem_selectBase htables h
      · rcases List.mem_append.1 h with h | h
        · -- The totals stand in the page itself.
          obtain ⟨f, hf, hw⟩ := List.exists_of_findSome?_eq_some hpage
          rw [Fragment.page?_eq_some_iff.1 hw] at hf
          exact ⟨.page, _, hf, h⟩
        · exact mentions_of_mem_selectBase htables h
    · rw [String.append_empty, tokens_append_of_isGlue (isGlue_pageTail b w)] at h
      exact mentions_of_mem_selectBase htables h

private theorem mentions_of_mem_table {b : Builder} {table t : String}
    (htable : b.clauses.get .table = [.text table]) (h : t ∈ tokens table) : b.Mentions t := by
  refine ⟨.table, .text table, ?_, h⟩
  rw [htable]
  exact List.mem_singleton_self _

private theorem mentions_of_mem_renderUpdate {b : Builder} {sql t : String}
    (hsql : b.renderUpdate = .ok sql) (h : t ∈ tokens sql) : b.Mentions t := by
  obtain ⟨table, assignments, htable, hsets, rfl⟩ := renderUpdate_eq_ok hsql
  rw [tokens_append_conditionText, tokens_glue (by decide), tokens_append_of_not_mem (by decide),
    b.clauses.tokens_eq_of_joined? hsets] at h
  simp only [List.mem_append] at h
  rcases h with (h | h) | h
  · exact mentions_of_mem_table htable h
  · exact mentions_of_mem_tokens h
  · exact mentions_of_mem_tokens h

private theorem mentions_of_mem_renderDelete {b : Builder} {sql t : String}
    (hsql : b.renderDelete = .ok sql) (h : t ∈ tokens sql) : b.Mentions t := by
  obtain ⟨table, htable, rfl⟩ := renderDelete_eq_ok hsql
  rw [tokens_append_conditionText, tokens_append_of_not_mem (by decide)] at h
  rcases List.mem_append.1 h with h | h
  · exact mentions_of_mem_table htable h
  · exact mentions_of_mem_tokens h

private theorem mentions_of_mem_insertColumns {b : Builder} {column : String × String} {t : String}
    (hcolumn : column ∈ b.insertColumns) (h : t ∈ tokens column.1 ∨ t ∈ tokens column.2) :
    b.Mentions t := by
  obtain ⟨f, hf, hcolumn⟩ := List.mem_filterMap.1 hcolumn
  cases f with
  | column field value =>
    obtain rfl := Option.some.inj hcolumn
    exact ⟨.insertValue, _, hf, List.mem_append.2 h⟩
  | _ => exact nomatch hcolumn

/-- What follows the values of an INSERT brings the placeholders of the assignments. -/
private theorem mentions_of_mem_upsertText {b : Builder} {a t : String}
    (h : t ∈ tokens (a ++ b.upsertText)) : t ∈ tokens a ∨ b.Mentions t := by
  rw [upsertText] at h
  split at h
  · rw [String.append_empty] at h
    exact .inl h
  · rw [← String.append_assoc, tokens_glue (by decide), tokens_intercalate (by decide)] at h
    rcases List.mem_append.1 h with h | h
    · exact .inl h
    · -- An assignment comes from a fragment with a column and its value.
      obtain ⟨s, hs, ht⟩ := List.mem_flatMap.1 h
      obtain ⟨d, hd, rfl⟩ := List.mem_map.1 hs
      obtain ⟨f, hf, hfd⟩ := List.mem_filterMap.1 hd
      rw [tokens_glue (by decide)] at ht
      cases f with
      | duplicate field value =>
        obtain rfl := Option.some.inj hfd
        exact .inr ⟨.duplicateUpdate, _, hf, ht⟩
      | _ => exact nomatch hfd

private theorem tokens_append_identityText (a : String) (b : Builder) :
    tokens (a ++ b.identityText) = tokens a := by
  rw [identityText]
  split
  · exact tokens_append_of_isGlue (by decide) a
  · rw [String.append_empty]

private theorem mentions_of_mem_renderInsert {b : Builder} {sql t : String}
    (hsql : b.renderInsert = .ok sql) (h : t ∈ tokens sql) : b.Mentions t := by
  obtain ⟨table, htable, -, rfl⟩ := renderInsert_eq_ok hsql
  rw [tokens_append_identityText] at h
  rcases mentions_of_mem_upsertText h with h | h
  · rw [tokens_append_of_isGlue (by decide), tokens_glue (by decide), tokens_glue (by decide),
      tokens_append_of_not_mem (by decide), tokens_intercalate (by decide),
      tokens_intercalate (by decide)] at h
    simp only [List.mem_append, List.mem_flatMap, List.mem_map] at h
    -- The names of the columns stand in front, their values behind.
    rcases h with (h | ⟨s, ⟨column, hcolumn, rfl⟩, h⟩) | ⟨s, ⟨column, hcolumn, rfl⟩, h⟩
    · exact mentions_of_mem_table htable h
    · exact mentions_of_mem_insertColumns hcolumn (.inl h)
    · exact mentions_of_mem_insertColumns hcolumn (.inr h)
  · exact h

/-- A placeholder of a rendered statement stands in one of the fragments of the builder. -/
theorem mem_tokens_render {b : Builder} {sql t : String} (hsql : b.render = .ok sql)
    (h : t ∈ tokens sql) : b.Mentions t := by
  cases hmode : b.mode with
  | select => exact mentions_of_mem_renderSelect hmode hsql h
  | insert =>
    rw [render, hmode] at hsql
    exact mentions_of_mem_renderInsert hsql h
  | update =>
    rw [render, hmode] at hsql
    exact mentions_of_mem_renderUpdate hsql h
  | delete =>
    rw [render, hmode] at hsql
    exact mentions_of_mem_renderDelete hsql h

end Builder

end SqlAssembly
