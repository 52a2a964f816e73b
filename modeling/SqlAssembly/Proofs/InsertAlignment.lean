import Mathlib.Data.List.Nodup
import SqlAssembly.Proofs.BoundPlaceholders
import SqlAssembly.Proofs.CallWrites
import SqlAssembly.Proofs.RunFragments

/-! # Columns, placeholders and parameters of an INSERT are aligned

The columns of an INSERT, their values and the parameters are three lists that grow apart: a column
may be given twice, but its parameter is bound once.  They stay aligned all the same: the `i`-th
column and the `i`-th value come from one call, and the placeholders of the statement, each counted
where it stands first, are the parameters in their order.

* `Params.names_addAll`                  names are bound in the order in which they come first
* `Builder.Call.FillsInsert`             the calls that fill an INSERT
* `Builder.Call.column?`, `Builder.Call.binding?`, `Builder.Call.upsert?`   what they contribute
* `Builder.insertSql`                    the statement they make
* `Builder.tokens_insertSql`             its placeholders are those of its values
* `Builder.render_insert_run_aligned`    columns, placeholders and parameters are aligned -/

namespace SqlAssembly

open Placeholder

/-! ## First occurrences -/

section

variable {α β : Type} [DecidableEq α] [DecidableEq β]

/-- An element behind a list is a first occurrence if it is not in the list. -/
private theorem eraseDups_concat (xs : List α) (x : α) :
    (xs ++ [x]).eraseDups = if x ∈ xs then xs.eraseDups else xs.eraseDups ++ [x] := by
  rw [List.eraseDups_append]
  by_cases hx : x ∈ xs
  · simp [List.removeAll, hx]
  · simp [List.removeAll, hx, List.eraseDups_cons]

private theorem nodup_eraseDups (xs : List α) : xs.eraseDups.Nodup := by
  -- An element is added at the end only if it was not there.
  induction xs using List.reverseRecOn with
  | nil => exact List.nodup_nil
  | append_singleton xs x ih =>
    rw [eraseDups_concat]
    split
    · exact ih
    · rename_i hx
      refine List.nodup_append.2 ⟨ih, List.nodup_singleton x, fun y hy z hz => ?_⟩
      rintro rfl
      rw [List.mem_singleton.1 hz] at hy
      exact hx (List.mem_eraseDups.1 hy)

/-- First occurrences are the same under other names. -/
private theorem eraseDups_map {f : α → β} (hf : Function.Injective f) (xs : List α) :
    (xs.map f).eraseDups = xs.eraseDups.map f := by
  induction xs using List.reverseRecOn with
  | nil => rfl
  | append_singleton xs x ih =>
    have hmem : f x ∈ xs.map f ↔ x ∈ xs := List.mem_map_of_injective hf
    rw [List.map_append, List.map_singleton, eraseDups_concat, eraseDups_concat, ih]
    by_cases hx : x ∈ xs
    · rw [if_pos (hmem.2 hx), if_pos hx]
    · rw [if_neg (mt hmem.1 hx), if_neg hx, List.map_append, List.map_singleton]

end

namespace Params

/-- Names are bound in the order in which they come first. -/
theorem names_addAll (bindings : List (String × Value)) :
    (empty.addAll bindings).names = (bindings.map fun b => clean b.1).eraseDups := by
  induction bindings using List.reverseRecOn with
  | nil => rfl
  | append_singleton bs b ih =>
    -- The last binding is added behind all others.
    have hrun : empty.addAll (bs ++ [b]) = (empty.addAll bs).add b.1 b.2 := by
      simp only [Params.addAll, List.foldl_append, List.foldl_cons, List.foldl_nil]
    rw [hrun, names_add, ih, List.map_append, List.map_singleton, eraseDups_concat]
    simp only [List.mem_eraseDups]

/-- Among clean names, the values added to a name are those of its bindings. -/
private theorem valuesAdded_eq_map_filter {name : String} {bindings : List (String × Value)}
    (hname : clean name = name) (hclean : ∀ b ∈ bindings, clean b.1 = b.1) :
    valuesAdded name bindings = (bindings.filter fun b => b.1 = name).map (·.2) := by
  induction bindings with
  | nil => rfl
  | cons b bs ih =>
    obtain ⟨hb, hbs⟩ := List.forall_mem_cons.1 hclean
    have hcons := valuesAdded_append name [b] bs
    rw [List.singleton_append, valuesAdded_singleton, hb, hname, ih hbs] at hcons
    rw [hcons, List.filter_cons]
    -- With both names clean, to compare them is to compare what they are kept as.
    by_cases heq : b.1 = name
    · rw [if_pos heq, if_pos (decide_eq_true heq)]
      rfl
    · rw [if_neg heq, if_neg (by rwa [decide_eq_true_eq])]
      rfl

end Params

namespace Builder

/-! ## The calls that fill an INSERT -/

/-- A name without its backticks. -/
def unticked (name : String) : String := String.ofList (name.toList.filter (· ≠ '`'))

namespace Call

/-- Whether a call fills an INSERT: with a value under a word, perhaps between backticks, with a
    literal or an assignment without placeholders, or with the query for the identity. -/
def FillsInsert : Call → Prop
  | .value field _ => IsWordName field
  | .valueLiteral field expr | .duplicate field expr => '@' ∉ field.toList ∧ '@' ∉ expr.toList
  | .selectIdentity => True
  | _ => False

/-- The column that a call contributes, and its placeholder or literal. -/
def column? : Call → Option (String × String)
  | .value field _ => some (field, "@" ++ unticked field)
  | .valueLiteral field expr => some (field, expr)
  | _ => none

/-- The parameter that a call binds, and its value. -/
def binding? : Call → Option (String × Value)
  | .value field v => some (unticked field, v)
  | _ => none

/-- The assignment that a call contributes for a row that is there already. -/
def upsert? : Call → Option (String × String)
  | .duplicate field expr => if field ≠ "" ∧ expr ≠ "" then some (field, expr) else none
  | _ => none

end Call

/-- A word name is cleaned by dropping its backticks. -/
private theorem clean_eq_unticked {field : String} (h : IsWordName field) :
    clean field = unticked field := by
  -- There is no at sign at the front to be dropped.
  have hdrop : field.toList.dropWhile (· = '@') = field.toList := by
    cases hfield : field.toList with
    | nil => rfl
    | cons c cs =>
      refine List.dropWhile_cons_of_neg ?_
      rw [decide_eq_true_eq]
      rintro rfl
      exact h.not_mem_at (hfield ▸ List.mem_cons_self)
  rw [clean, hdrop]
  rfl

section

variable {call : Call} {calls : List Call}

namespace Call.FillsInsert

private theorem switchesTo?_eq (h : call.FillsInsert) : call.switchesTo? = none := by
  cases call with
  | value | valueLiteral | duplicate | selectIdentity => rfl
  | _ => exact absurd h id

private theorem replaced_eq (h : call.FillsInsert) : call.replaced = [] := by
  cases call with
  | value | valueLiteral | duplicate | selectIdentity => rfl
  | _ => exact absurd h id

private theorem pick_table (h : call.FillsInsert) :
    Clause.table.pick (call.added .insert) = [] := by
  cases call with
  | value | valueLiteral | selectIdentity => rfl
  | duplicate field expr =>
    rw [Call.added]
    split <;> rfl
  | _ => exact absurd h id

/-- The columns of a call are those of its fragments. -/
private theorem pick_insertValue (h : call.FillsInsert) :
    (Clause.insertValue.pick (call.added .insert)).filterMap Fragment.column? =
      call.column?.toList := by
  cases call with
  | value field v =>
    -- The placeholder is that of the clean name, which is the one without backticks.
    show [(field, "@" ++ clean field)] = [(field, "@" ++ unticked field)]
    rw [clean_eq_unticked h]
  | valueLiteral | selectIdentity => rfl
  | duplicate field expr =>
    rw [Call.added]
    split <;> rfl
  | _ => exact absurd h id

/-- The assignments of a call are those of its fragments. -/
private theorem pick_duplicateUpdate (h : call.FillsInsert) :
    (Clause.duplicateUpdate.pick (call.added .insert)).filterMap Fragment.duplicate? =
      call.upsert?.toList := by
  cases call with
  | value | valueLiteral | selectIdentity => rfl
  | duplicate field expr =>
    simp only [Call.added, Call.upsert?, true_and]
    split <;> rfl
  | _ => exact absurd h id

/-- A call writes what it binds. -/
private theorem writes_eq (h : call.FillsInsert) :
    call.writes = call.binding?.toList.map fun b => .add b.1 b.2 := by
  cases call with
  | value field v =>
    show [Params.Write.add (clean field) v] = [.add (unticked field) v]
    rw [clean_eq_unticked h]
  | valueLiteral | duplicate | selectIdentity => rfl
  | _ => exact absurd h id

end Call.FillsInsert

/-! ## Runs -/

variable {b : Builder}

theorem Call.FillsInsert.mode_apply (h : call.FillsInsert) (hmode : b.mode = .insert) :
    (b.apply call).mode = .insert := by
  rw [Builder.mode_apply, h.switchesTo?_eq]
  exact hmode

private theorem mode_run_of_fillsInsert (hmode : b.mode = .insert)
    (hcalls : ∀ call ∈ calls, call.FillsInsert) : (b.run calls).mode = .insert := by
  -- No call that fills an INSERT turns it into another statement.
  induction calls generalizing b with
  | nil => exact hmode
  | cons call calls ih =>
    obtain ⟨hcall, hcalls⟩ := List.forall_mem_cons.1 hcalls
    exact ih (hcall.mode_apply hmode) hcalls

/-- The fragments of a clause behind calls that fill an INSERT are those before and theirs. -/
private theorem get_clauses_run_of_fillsInsert (hmode : b.mode = .insert)
    (hcalls : ∀ call ∈ calls, call.FillsInsert) (k : Clause) :
    (b.run calls).clauses.get k =
      b.clauses.get k ++ calls.flatMap fun call => k.pick (call.added .insert) := by
  induction calls generalizing b with
  | nil => exact (List.append_nil _).symm
  | cons call calls ih =>
    obtain ⟨hcall, hcalls⟩ := List.forall_mem_cons.1 hcalls
    -- The calls drop nothing, so that each fragment goes behind the others.
    rw [run_cons, ih (hcall.mode_apply hmode) hcalls, get_clauses_apply, hcall.replaced_eq, hmode,
      if_neg List.not_mem_nil, List.append_assoc, List.flatMap_cons]

/-- The identity of the new row is asked for if a call does so. -/
private theorem identity_run_of_fillsInsert (hmode : b.mode = .insert)
    (hcalls : ∀ call ∈ calls, call.FillsInsert) :
    (b.run calls).identity = (b.identity || calls.any Call.asksIdentity) := by
  induction calls generalizing b with
  | nil => exact (Bool.or_false b.identity).symm
  | cons call calls ih =>
    obtain ⟨hcall, hcalls⟩ := List.forall_mem_cons.1 hcalls
    rw [run_cons, ih (hcall.mode_apply hmode) hcalls, identity_apply, hmode, List.any_cons,
      decide_eq_true rfl, Bool.true_and, Bool.or_assoc]

/-- What a view sees in the fragments of calls is what it sees in those of each. -/
private theorem filterMap_flatMap_pick {β : Type} {view : Fragment → Option β}
    {part : Call → Option β} {k : Clause}
    (h : ∀ call ∈ calls, (k.pick (call.added .insert)).filterMap view = (part call).toList) :
    (calls.flatMap fun call => k.pick (call.added .insert)).filterMap view =
      calls.filterMap part := by
  rw [List.filterMap_flatMap, List.filterMap_eq_flatMap_toList]
  exact List.flatMap_congr h

/-- The parameters behind calls that fill an INSERT are those that they bind. -/
theorem params_run_of_fillsInsert (hcalls : ∀ call ∈ calls, call.FillsInsert) :
    (b.run calls).params = b.params.addAll (calls.filterMap Call.binding?) := by
  -- What is written is put together call by call on both sides.
  have hwrites : calls.flatMap Call.writes =
      (calls.filterMap Call.binding?).map fun b => .add b.1 b.2 := by
    rw [List.filterMap_eq_flatMap_toList, List.map_flatMap]
    exact List.flatMap_congr fun call hcall => (hcalls call hcall).writes_eq
  rw [params_run, hwrites, Params.addAll_eq_writeAll]

/-! ## The statement -/

/-- An INSERT with columns and their values, assignments for a row that is there already, and
    perhaps the query for the identity of the new row. -/
def insertSql (table : String) (columns upserts : List (String × String)) (asksIdentity : Bool) :
    String :=
  "INSERT INTO " ++ table ++ " (" ++ ",".intercalate (columns.map (·.1)) ++ ") VALUES (" ++
    ",".intercalate (columns.map (·.2)) ++ ")" ++
    (if upserts.isEmpty then ""
    else " ON DUPLICATE KEY UPDATE " ++
      ",".intercalate (upserts.map fun d => d.1 ++ "=" ++ d.2)) ++
    if asksIdentity then ";SELECT LAST_INSERT_ID() AS id;" else ""

variable {table : String}

/-- Calls that fill an INSERT with a column at least are rendered. -/
theorem render_run_of_fillsInsert (hcalls : ∀ call ∈ calls, call.FillsInsert)
    (hcolumns : calls.filterMap Call.column? ≠ []) :
    (empty.run (.insert table :: calls)).render =
      .ok (insertSql table (calls.filterMap Call.column?) (calls.filterMap Call.upsert?)
        (calls.any Call.asksIdentity)) := by
  have hmode : (empty.apply (.insert table)).mode = .insert := rfl
  have hget := get_clauses_run_of_fillsInsert hmode hcalls
  have hrun : empty.run (.insert table :: calls) = (empty.apply (.insert table)).run calls := rfl
  rw [hrun]
  set b := (empty.apply (.insert table)).run calls
  -- None of the calls adds a second table.
  have htable : b.clauses.get .table = [.text table] := by
    have hnone : (calls.flatMap fun call => Clause.table.pick (call.added .insert)) = [] :=
      List.flatMap_eq_nil_iff.2 fun call hcall => (hcalls call hcall).pick_table
    rw [hget, hnone]
    rfl
  -- Columns and assignments are seen in the fragments as they were given.
  have hinsert : b.insertColumns = calls.filterMap Call.column? := by
    have hview := filterMap_flatMap_pick fun call hcall => (hcalls call hcall).pick_insertValue
    rw [insertColumns, hget, List.filterMap_append, hview]
    rfl
  have hupserts : (b.clauses.get .duplicateUpdate).filterMap Fragment.duplicate? =
      calls.filterMap Call.upsert? := by
    have hview := filterMap_flatMap_pick fun call hcall => (hcalls call hcall).pick_duplicateUpdate
    rw [hget, List.filterMap_append, hview]
    rfl
  have hidentity : b.identity = calls.any Call.asksIdentity :=
    identity_run_of_fillsInsert hmode hcalls
  rw [render, mode_run_of_fillsInsert hmode hcalls]
  rw [← hinsert] at hcolumns ⊢
  show b.renderInsert = _
  -- With one table and a column the text is put together.
  rw [renderInsert_of_table htable hcolumns]
  unfold insertSql insertText upsertText identityText
  rw [hupserts, hidentity]

/-- The placeholders of an INSERT are those of its values if nothing else has any. -/
theorem tokens_insertSql {columns upserts : List (String × String)} (asksIdentity : Bool)
    (htable : '@' ∉ table.toList) (hcolumns : ∀ c ∈ columns, '@' ∉ c.1.toList)
    (hupserts : ∀ d ∈ upserts, '@' ∉ d.1.toList ∧ '@' ∉ d.2.toList) :
    tokens (insertSql table columns upserts asksIdentity) =
      columns.flatMap fun c => tokens c.2 := by
  -- The names of the columns have no placeholders, and neither have the assignments.
  have hfields : (columns.map (·.1)).flatMap tokens = [] := by
    rw [List.flatMap_map, List.flatMap_eq_nil_iff]
    exact fun c hc => tokens_of_not_mem (hcolumns c hc)
  have hassignments : (upserts.map fun d => d.1 ++ "=" ++ d.2).flatMap tokens = [] := by
    rw [List.flatMap_map, List.flatMap_eq_nil_iff]
    intro d hd
    rw [tokens_glue (by decide), tokens_of_not_mem (hupserts d hd).1,
      tokens_of_not_mem (hupserts d hd).2]
    rfl
  -- A placeholder of a value ends at the comma or the bracket behind it.
  have hmain : tokens ("INSERT INTO " ++ table ++ " (" ++ ",".intercalate (columns.map (·.1)) ++
      ") VALUES (" ++ ",".intercalate (columns.map (·.2)) ++ ")") =
      columns.flatMap fun c => tokens c.2 := by
    rw [tokens_append_of_isGlue (by decide), tokens_glue (by decide), tokens_glue (by decide),
      tokens_append_of_not_mem (by decide), tokens_of_not_mem htable,
      tokens_intercalate (by decide), tokens_intercalate (by decide), hfields, List.flatMap_map]
    rfl
  -- What may stand behind the values begins with no word character.
  have hupsert : ∀ a, tokens (a ++ if upserts.isEmpty then "" else " ON DUPLICATE KEY UPDATE " ++
      ",".intercalate (upserts.map fun d => d.1 ++ "=" ++ d.2)) = tokens a := by
    intro a
    split
    · rw [String.append_empty]
    · rw [← String.append_assoc, tokens_glue (by decide), tokens_intercalate (by decide),
        hassignments, List.append_nil]
  have hidentity : ∀ a,
      tokens (a ++ if asksIdentity then ";SELECT LAST_INSERT_ID() AS id;" else "") = tokens a := by
    intro a
    split
    · exact tokens_append_of_isGlue (by decide) a
    · rw [String.append_empty]
  unfold insertSql
  rw [hidentity, hupsert, hmain]

/-- The placeholders of the columns are those of the parameters that the calls bind. -/
private theorem tokens_columns (hcalls : ∀ call ∈ calls, call.FillsInsert) :
    ((calls.filterMap Call.column?).flatMap fun c => tokens c.2) =
      (calls.filterMap Call.binding?).map fun b => "@" ++ b.1 := by
  -- Only a value has a placeholder, and it is the one that the call binds.
  have hcall : ∀ call ∈ calls, (call.column?.toList.flatMap fun c => tokens c.2) =
      call.binding?.toList.map fun b => "@" ++ b.1 := by
    intro call hmem
    have h := hcalls call hmem
    cases call with
    | value field v =>
      have hword := h.isWordText_clean
      rw [clean_eq_unticked h] at hword
      exact (List.append_nil _).trans (tokens_at_word hword)
    | valueLiteral field expr => exact (List.append_nil _).trans (tokens_of_not_mem h.2)
    | duplicate | selectIdentity => rfl
    | _ => exact absurd h id
  -- Both sides go through the calls in the same order.
  rw [List.filterMap_eq_flatMap_toList, List.filterMap_eq_flatMap_toList, List.flatMap_assoc,
    List.map_flatMap]
  exact List.flatMap_congr hcall

/-- What calls that fill an INSERT contribute has placeholders in values only. -/
private theorem not_mem_of_fillsInsert (hcalls : ∀ call ∈ calls, call.FillsInsert) :
    (∀ c ∈ calls.filterMap Call.column?, '@' ∉ c.1.toList) ∧
      ∀ d ∈ calls.filterMap Call.upsert?, '@' ∉ d.1.toList ∧ '@' ∉ d.2.toList := by
  constructor
  · -- the columns, which come from values and literals
    intro c hc
    obtain ⟨call, hmem, hcolumn⟩ := List.mem_filterMap.1 hc
    have h := hcalls call hmem
    cases call with
    | value field v =>
      obtain rfl := Option.some.inj hcolumn
      exact h.not_mem_at
    | valueLiteral field expr =>
      obtain rfl := Option.some.inj hcolumn
      exact h.1
    | _ => exact nomatch hcolumn
  · -- the assignments
    intro d hd
    obtain ⟨call, hmem, hupsert⟩ := List.mem_filterMap.1 hd
    have h := hcalls call hmem
    cases call with
    | duplicate field expr =>
      obtain rfl := Option.some.inj (Option.ite_none_right_eq_some.1 hupsert).2
      exact h
    | _ => exact nomatch hupsert

/-- The names that calls bind are words. -/
private theorem clean_of_mem_binding? (hcalls : ∀ call ∈ calls, call.FillsInsert)
    {b : String × Value} (hb : b ∈ calls.filterMap Call.binding?) : clean b.1 = b.1 := by
  obtain ⟨call, hmem, hbinding⟩ := List.mem_filterMap.1 hb
  have h := hcalls call hmem
  cases call with
  | value field v =>
    obtain rfl := Option.some.inj hbinding
    have hword := h.isWordText_clean
    rw [clean_eq_unticked h] at hword
    exact clean_of_isWordText hword
  | _ => exact nomatch hbinding

/-- **Columns, placeholders and parameters of an INSERT are aligned.**  Behind the choice of the
    table, calls with a column at least make an INSERT with the columns and values that they
    contribute, in their order.  Its placeholders, each where it stands first, are the parameters in
    their order.  No parameter is bound twice, and each has the value that was given last. -/
theorem render_insert_run_aligned (htable : '@' ∉ table.toList)
    (hcalls : ∀ call ∈ calls, call.FillsInsert)
    (hcolumn : ∃ call ∈ calls, call.column?.isSome = true) :
    let b := empty.run (.insert table :: calls)
    let bindings := calls.filterMap Call.binding?
    ∃ sql, b.render = .ok sql ∧
      sql = insertSql table (calls.filterMap Call.column?) (calls.filterMap Call.upsert?)
        (calls.any Call.asksIdentity) ∧
      (tokens sql).eraseDups = b.params.names.map ("@" ++ ·) ∧
      b.params.names = (bindings.map (·.1)).eraseDups ∧
      b.params.names.Nodup ∧
      ∀ name ∈ b.params.names,
        b.params.get? name = ((bindings.filter fun b => b.1 = name).map (·.2)).getLast? := by
  intro b bindings
  -- The call with a column makes the list of columns one that can be rendered.
  have hcolumns : calls.filterMap Call.column? ≠ [] := by
    obtain ⟨call, hmem, hsome⟩ := hcolumn
    obtain ⟨c, hc⟩ := Option.isSome_iff_exists.1 hsome
    exact List.ne_nil_of_mem (List.mem_filterMap.2 ⟨call, hmem, hc⟩)
  -- The names that are bound are words, so that they are kept as they are.
  have hclean : ∀ b ∈ bindings, clean b.1 = b.1 := fun b hb => clean_of_mem_binding? hcalls hb
  have hparams : b.params = Params.empty.addAll bindings :=
    params_run_of_fillsInsert (b := empty.apply (.insert table)) hcalls
  -- A name is bound where it comes first, and keeps that place.
  have hnames : b.params.names = (bindings.map (·.1)).eraseDups := by
    rw [hparams, Params.names_addAll, List.map_congr_left hclean]
  -- No two names get the same placeholder.
  have hat : Function.Injective fun s : String => "@" ++ s := fun s t h =>
    String.append_right_inj "@" |>.1 h
  refine ⟨_, render_run_of_fillsInsert hcalls hcolumns, rfl, ?_, hnames, ?_, fun name hname => ?_⟩
  · -- The placeholders are those of the bindings, and their first occurrences are the names.
    obtain ⟨hfields, hupserts⟩ := not_mem_of_fillsInsert hcalls
    rw [tokens_insertSql _ htable hfields hupserts, tokens_columns hcalls, hnames,
      ← eraseDups_map hat, List.map_map]
    rfl
  · rw [hnames]
    exact nodup_eraseDups _
  · -- Every name is added to only, so the value that was added last is read.
    rw [hnames, List.mem_eraseDups] at hname
    obtain ⟨first, hfirst, rfl⟩ := List.mem_map.1 hname
    rw [hparams, Params.isSingle_empty.get?_addAll_eq_getLast?,
      Params.valuesAdded_eq_map_filter (hclean first hfirst) hclean]
    exact Option.or_none

end

/-- Calls that give one column twice, with and without backticks. -/
def twiceGiven : List Call :=
  [.value "`a`" (.text "1"), .selectIdentity, .valueLiteral "b" "NOW()", .value "c" (.text "2"),
    .duplicate "a" "VALUES(a)", .value "a" (.text "3")]

/-- Both columns stand in the statement, and their one parameter has the later value. -/
theorem render_insert_run_twiceGiven :
    ('@' ∉ "t".toList ∧ (∀ call ∈ twiceGiven, call.FillsInsert) ∧
      ∃ call ∈ twiceGiven, call.column?.isSome = true) ∧
    ∃ sql, (empty.run (.insert "t" :: twiceGiven)).render = .ok sql ∧
      sql = "INSERT INTO t (`a`,b,c,a) VALUES (@a,NOW(),@c,@a)" ++
        " ON DUPLICATE KEY UPDATE a=VALUES(a);SELECT LAST_INSERT_ID() AS id;" ∧
      (tokens sql).eraseDups = ["@a", "@c"] ∧
      (empty.run (.insert "t" :: twiceGiven)).params.get? "a" = some (.text "3") := by
  have htable : '@' ∉ "t".toList := by decide
  have hcalls : ∀ call ∈ twiceGiven, call.FillsInsert := by
    simp only [twiceGiven, List.forall_mem_cons, List.not_mem_nil, Call.FillsInsert]
    refine ⟨⟨"a", by decide, .inr (by decide)⟩, trivial, by decide, ⟨"c", by decide, .inl rfl⟩,
      by decide, ⟨"a", by decide, .inl rfl⟩, fun _ => False.elim⟩
  have hcolumn : ∃ call ∈ twiceGiven, call.column?.isSome = true :=
    ⟨_, List.mem_cons_self, rfl⟩
  obtain ⟨sql, hsql, htext, htokens, -, -, hvalues⟩ :=
    render_insert_run_aligned htable hcalls hcolumn
  refine ⟨⟨htable, hcalls, hcolumn⟩, sql, hsql, htext.trans (by decide), ?_, ?_⟩
  · rw [htokens]
    decide
  · exact hvalues "a" (by decide)

end Builder

end SqlAssembly
