import SqlAssembly.Proofs.CallEffects

/-! # What a call does to the clauses

A call puts fragments behind those of some clauses, and four kinds of calls drop the fragments of
one clause first.  `Builder.get_clauses_apply` says so for all calls and all clauses at once, so
that facts about clauses need not go through the calls again.

* `Clause.pick`                 the fragments of one clause among those of several
* `Builder.Call.replaced`       the clauses whose fragments a call drops
* `Builder.Call.added`          the fragments that a call adds
* `Builder.get_clauses_apply`   the fragments of a clause behind a call -/

namespace SqlAssembly

namespace Clause

/-- The fragments of one clause among those of several. -/
def pick (k : Clause) (fs : List (Clause × Fragment)) : List Fragment :=
  fs.filterMap fun p => if p.1 = k then some p.2 else none

theorem mem_pick {k : Clause} {fs : List (Clause × Fragment)} {f : Fragment} :
    f ∈ k.pick fs ↔ (k, f) ∈ fs := by
  simp only [pick, List.mem_filterMap, Option.ite_none_right_eq_some, Option.some.injEq]
  constructor
  · rintro ⟨⟨k', f'⟩, hmem, rfl, rfl⟩
    exact hmem
  · intro h
    exact ⟨(k, f), h, rfl, rfl⟩

/-- A clause has no fragments among those of the others. -/
theorem pick_eq_nil {k : Clause} {fs : List (Clause × Fragment)} (h : ∀ f, (k, f) ∉ fs) :
    k.pick fs = [] :=
  List.eq_nil_iff_forall_not_mem.2 fun f hf => h f (mem_pick.1 hf)

theorem pick_map_self (k : Clause) (fs : List Fragment) : k.pick (fs.map (k, ·)) = fs := by
  have hkeep : (fun p : Clause × Fragment => if p.1 = k then some p.2 else none) ∘ (k, ·) = some :=
    funext fun f => if_pos rfl
  rw [pick, List.filterMap_map, hkeep, List.filterMap_some]

private theorem pick_map_of_ne {k k' : Clause} (h : k' ≠ k) (fs : List Fragment) :
    k.pick (fs.map (k', ·)) = [] := by
  rw [pick, List.filterMap_map, List.filterMap_eq_nil_iff]
  exact fun f _ => if_neg h

end Clause

namespace Builder

/-! ## Calls -/

/-- The clauses whose fragments a call drops before it adds its own. -/
def Call.replaced : Call → List Clause
  | .clearSelect => [.select]
  | .limit .. => [.limit]
  | .forUpdate => [.forUpdate]
  | .page .. => [.page]
  | .gated isOpen call => if isOpen then call.replaced else []
  | _ => []

/-- The fragments that a call adds to a statement of kind `mode`, each with its clause. -/
def Call.added (mode : Mode) : Call → List (Clause × Fragment)
  | .configure _ | .selectIdentity | .clearSelect => []
  | .table name | .insert name | .update name | .delete name => [(.table, .text name)]
  | .tableAs name aliasName => [(.table, .text (aliased name aliasName))]
  | .value field _ => [(.insertValue, .column field ("@" ++ Placeholder.clean field))]
  | .valueLiteral field expr => [(.insertValue, .column field expr)]
  | .duplicate field expr =>
    if mode = .insert ∧ field ≠ "" ∧ expr ≠ "" then [(.duplicateUpdate, .duplicate field expr)]
    else []
  | .set field _ =>
    (parameterName? field).toList.map fun name => (.updateValue, .text (assignment name))
  | .setLiteral field expr => [(.updateValue, .text (field ++ "=" ++ expr))]
  | .condition text _ => [(.condition, .text text)]
  | .conditionIn field values =>
    [(.condition,
      .text (if values.isEmpty then neverCondition else listCondition field values.length))]
  | .join kind name aliasName on =>
    [(.join, .text (kind.keyword ++ " " ++ aliased name aliasName ++ " ON " ++ on))]
  | .select fields => fields.map fun field => (.select, .text field)
  | .groupBy fields => fields.map fun field => (.groupBy, .text field)
  | .orderBy field direction =>
    [(.orderBy, .text ((if field = "" then "1" else field) ++ " " ++ direction.sql))]
  | .limit offset rows => [(.limit, .limit offset rows)]
  | .forUpdate => [(.forUpdate, .forUpdate)]
  | .page index size countRows totals =>
    [(.page, .page (.ofPage index size countRows totals))]
  | .gated isOpen call => if isOpen then call.added mode else []

/-! ## The fragments behind a call -/

section

variable (b : Builder) (k : Clause)

theorem get_addFragment (k' : Clause) (f : Fragment) :
    (b.addFragment k' f).clauses.get k = b.clauses.get k ++ k.pick [(k', f)] := by
  by_cases h : k' = k
  · subst h
    exact (Clauses.get_add_self ..).trans (congrArg (_ ++ ·) (Clause.pick_map_self k' [f]).symm)
  · have hpick : k.pick [(k', f)] = [] := Clause.pick_map_of_ne h [f]
    rw [hpick, List.append_nil]
    exact Clauses.get_add_of_ne _ _ (Ne.symm h)

theorem get_addTexts (k' : Clause) (texts : List String) :
    (b.addTexts k' texts).clauses.get k =
      b.clauses.get k ++ k.pick (texts.map fun s => (k', .text s)) := by
  have hmap : texts.map (fun s => (k', Fragment.text s)) = (texts.map .text).map (k', ·) := by
    rw [List.map_map]
    rfl
  rw [hmap]
  by_cases h : k' = k
  · subst h
    rw [Clause.pick_map_self]
    exact Clauses.get_set_self ..
  · rw [Clause.pick_map_of_ne h, List.append_nil]
    exact Clauses.get_set_of_ne _ _ (Ne.symm h)

theorem get_replaceFragment (k' : Clause) (f : Fragment) :
    (b.replaceFragment k' f).clauses.get k =
      (if k ∈ [k'] then [] else b.clauses.get k) ++ k.pick [(k', f)] := by
  by_cases h : k' = k
  · subst h
    rw [if_pos List.mem_cons_self]
    exact (Clauses.get_replace_self ..).trans (Clause.pick_map_self k' [f]).symm
  · have hpick : k.pick [(k', f)] = [] := Clause.pick_map_of_ne h [f]
    rw [hpick, List.append_nil, if_neg fun hk => h (List.mem_singleton.1 hk).symm]
    exact Clauses.get_replace_of_ne _ _ (Ne.symm h)

theorem get_addCondition (text : String) (args : List Value) :
    (b.addCondition text args).clauses.get k =
      b.clauses.get k ++ k.pick [(.condition, .text text)] :=
  b.get_addFragment k .condition (.text text)

/-- A call drops the fragments of the clauses that it replaces, and adds its own. -/
theorem get_clauses_apply (call : Call) :
    (b.apply call).clauses.get k =
      (if k ∈ call.replaced then [] else b.clauses.get k) ++ k.pick (call.added b.mode) := by
  -- Calls that add one fragment do so by definition; the others need their equations.
  induction call with
  | configure config => exact (List.append_nil _).symm
  | table name | tableAs name aliasName | valueLiteral field expr | setLiteral field expr
  | join kind name aliasName on | orderBy field direction =>
    exact b.get_addFragment k _ _
  -- The kind of the statement changes first, which no clause shows.
  | insert name | update name | delete name => exact get_addFragment _ k _ _
  | value field value => exact b.get_addFragment k _ _
  | duplicate field expr =>
    -- Outside of an INSERT, and without a field or a value, the call does nothing.
    rw [apply_duplicate, Call.added]
    split
    · exact b.get_addFragment k _ _
    · exact (List.append_nil _).symm
  | selectIdentity =>
    -- Asking for the identity sets a flag, and that only in an INSERT.
    rw [apply_selectIdentity]
    split
    · exact (List.append_nil _).symm
    · exact (List.append_nil _).symm
  | set field value =>
    rw [apply_set, Call.added]
    -- A field that no name is left of is passed over.
    cases parameterName? field with
    | some name => exact b.get_addFragment k _ _
    | none => exact (List.append_nil _).symm
  | condition text args => exact b.get_addCondition k text args
  | conditionIn field values =>
    rw [apply_conditionIn, Call.added]
    split
    · exact b.get_addCondition k _ _
    · exact b.get_addCondition k _ _
  | select fields | groupBy fields => exact b.get_addTexts k _ _
  | clearSelect =>
    -- The columns are set to none, and the other clauses stay.
    show (b.clauses.set .select []).get k = (if k ∈ [.select] then [] else b.clauses.get k) ++ []
    rw [List.append_nil]
    split
    · rename_i hk
      rw [List.mem_singleton.1 hk, Clauses.get_set_self]
    · rename_i hk
      rw [Clauses.get_set_of_ne _ _ fun h => hk (List.mem_singleton.2 h)]
  | limit offset rows | forUpdate | page index size countRows totals =>
    exact b.get_replaceFragment k _ _
  | gated isOpen call ih =>
    -- A closed gate leaves out both what the call adds and what it would drop.
    cases isOpen with
    | true => exact ih
    | false => exact (List.append_nil _).symm

end

/-- A fragment behind a call was there before or is one that the call adds. -/
theorem mem_get_clauses_apply {b : Builder} {call : Call} {k : Clause} {f : Fragment}
    (h : f ∈ (b.apply call).clauses.get k) :
    f ∈ b.clauses.get k ∨ (k, f) ∈ call.added b.mode := by
  rw [get_clauses_apply, List.mem_append, Clause.mem_pick] at h
  refine h.imp_left fun hold => ?_
  -- Of a clause that was dropped nothing is left.
  split at hold
  · exact absurd hold List.not_mem_nil
  · exact hold

/-- Only the columns of a query, its limit, its page and its lock are ever dropped. -/
theorem not_mem_replaced {k : Clause} (hk : k ∉ [.select, .limit, .forUpdate, .page])
    (call : Call) : k ∉ call.replaced := by
  simp only [List.mem_cons, List.not_mem_nil, or_false, not_or] at hk
  obtain ⟨hselect, hlimit, hlock, hpage⟩ := hk
  -- Gates nest, hence the induction.
  induction call with
  | clearSelect => exact mt List.mem_singleton.1 hselect
  | limit offset rows => exact mt List.mem_singleton.1 hlimit
  | forUpdate => exact mt List.mem_singleton.1 hlock
  | page index size countRows totals => exact mt List.mem_singleton.1 hpage
  | gated isOpen call ih =>
    cases isOpen with
    | true => exact ih
    | false => exact List.not_mem_nil
  | _ => exact List.not_mem_nil

/-- A call that drops a clause adds one fragment at most. -/
theorem length_added_le_one {call : Call} {k : Clause} (h : k ∈ call.replaced) (mode : Mode) :
    (call.added mode).length ≤ 1 := by
  induction call with
  | clearSelect => exact Nat.zero_le 1
  | limit offset rows | forUpdate | page index size countRows totals => exact Nat.le_refl 1
  | gated isOpen call ih =>
    cases isOpen with
    | true => exact ih h
    | false => exact absurd h List.not_mem_nil
  | _ => exact absurd h List.not_mem_nil

end Builder

end SqlAssembly
