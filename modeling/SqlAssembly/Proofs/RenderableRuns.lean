import SqlAssembly.Proofs.FragmentShapes

/-! # Which calls make a statement

A statement is rendered from its clauses, but whether it can be rendered at all can be read off the
calls: the kind of statement is that of the last call that switches it, and what matters besides is
how many calls name a table, and whether one gives a value or an assignment.  Nothing else adds to
these clauses, and nothing drops what is in them.

* `Builder.Call.supplies`      the calls that count
* `Builder.shortage?`          what a statement of each kind lacks
* `Builder.IsWellFormed.fault?_render`   rendering fails for what is lacking, and for nothing else
* `Builder.render_run_eq_ok_iff`         which runs of calls can be rendered -/

namespace SqlAssembly

/-- The error of a result, if it is one. -/
def fault? {ε α : Type} : Except ε α → Option ε
  | .error e => some e
  | .ok _ => none

private theorem fault?_eq_some {ε α : Type} {x : Except ε α} {e : ε} :
    fault? x = some e ↔ x = .error e := by
  cases x with
  | error e' => simp only [fault?, Option.some.injEq, Except.error.injEq]
  | ok a => simp only [fault?, reduceCtorEq]

private theorem fault?_eq_none {ε α : Type} {x : Except ε α} :
    fault? x = none ↔ ∃ a, x = .ok a := by
  cases x with
  | error e => simp only [fault?, reduceCtorEq, exists_false]
  | ok a => exact ⟨fun _ => ⟨a, rfl⟩, fun _ => rfl⟩

/-- A first step fails with its own error, and else the second step with its own. -/
private theorem fault?_bind {ε α β : Type} {x : Except ε α} {f : α → Except ε β} {fault : Option ε}
    (h : ∀ a, fault? (f a) = fault) : fault? (x >>= f) = (fault? x).or fault := by
  cases x with
  | error e => rfl
  | ok a => exact h a

namespace Builder

/-! ## The calls that count -/

/-- Which of the three clauses that rendering needs a call adds to. -/
def Call.supplied? : Call → Option Clause
  | .table _ | .tableAs .. | .insert _ | .update _ | .delete _ => some .table
  | .value .. | .valueLiteral .. => some .insertValue
  | .setLiteral .. => some .updateValue
  | .set field _ => if (parameterName? field).isSome then some .updateValue else none
  | .gated isOpen call => if isOpen then call.supplied? else none
  | _ => none

/-- Whether a call adds a table, a value of an INSERT or an assignment of an UPDATE. -/
def Call.supplies (k : Clause) (call : Call) : Bool := call.supplied? = some k

/-- A call adds one fragment to the clause that it supplies, and none to the other two. -/
private theorem length_pick_added {k : Clause} (hk : k ∈ [.table, .insertValue, .updateValue])
    (mode : Mode) (call : Call) :
    (k.pick (call.added mode)).length = if call.supplies k then 1 else 0 := by
  simp only [List.mem_cons, List.not_mem_nil, or_false] at hk
  induction call with
  | duplicate field expr =>
    rw [Call.added]
    split
    · rcases hk with rfl | rfl | rfl <;> rfl
    · rfl
  | set field value =>
    rw [Call.added, Call.supplies, Call.supplied?]
    -- An assignment to no parameter adds nothing.
    cases parameterName? field with
    | none => rfl
    | some name => rcases hk with rfl | rfl | rfl <;> rfl
  | select fields | groupBy fields =>
    -- Calls with many fragments add to other clauses.
    rw [Call.added, Clause.pick_eq_nil]
    · rfl
    · intro f hf
      obtain ⟨field, -, heq⟩ := List.mem_map.1 hf
      obtain ⟨rfl, -⟩ := Prod.mk.inj heq
      rcases hk with h | h | h <;> cases h
  | gated isOpen call ih =>
    cases isOpen with
    | true => exact ih
    | false => rfl
  | _ => rcases hk with rfl | rfl | rfl <;> rfl

/-- The number of tables, of values or of assignments behind a run is that of the calls for them. -/
private theorem count_supplied_run {k : Clause} (hk : k ∈ [.table, .insertValue, .updateValue])
    (calls : List Call) :
    (empty.run calls).clauses.count k = calls.countP (Call.supplies k) := by
  -- Only these four clauses are ever dropped.
  have hdrops : k ∉ [.select, .limit, .forUpdate, .page] := by
    simp only [List.mem_cons, List.not_mem_nil, or_false] at hk
    rcases hk with rfl | rfl | rfl <;> decide
  rw [count_run (not_mem_replaced hdrops) (length_pick_added hk)]
  exact Nat.zero_add _

/-! ## What is lacking -/

/-- What is wrong with the number of tables of a statement that has one. -/
def tableShortage? (mode : Mode) : Nat → Option ConfigurationError
  | 0 => some (.noTable mode)
  | 1 => none
  | tables => some (.tableCount mode tables)

/-- What a statement lacks that has so many tables, values and assignments. -/
def shortage? (mode : Mode) (tables values assignments : Nat) : Option ConfigurationError :=
  match mode with
  | .select => if tables = 0 then some (.noTable .select) else none
  | .insert => (tableShortage? .insert tables).or (if values = 0 then some .noValues else none)
  | .update =>
    (tableShortage? .update tables).or (if assignments = 0 then some .noAssignments else none)
  | .delete => tableShortage? .delete tables

private theorem tableShortage?_eq_none {mode : Mode} {tables : Nat} :
    tableShortage? mode tables = none ↔ tables = 1 := by
  rcases tables with _ | _ | tables <;> simp [tableShortage?]

/-- Nothing is lacking if there is a table, just one outside of a query, and a value or an
    assignment where it is needed. -/
private theorem shortage?_eq_none {mode : Mode} {tables values assignments : Nat} :
    shortage? mode tables values assignments = none ↔
      mode = .select ∧ 1 ≤ tables ∨ mode = .delete ∧ tables = 1 ∨
        mode = .insert ∧ tables = 1 ∧ 1 ≤ values ∨
        mode = .update ∧ tables = 1 ∧ 1 ≤ assignments := by
  cases mode <;>
    simp [shortage?, Option.or_eq_none_iff, tableShortage?_eq_none, Nat.one_le_iff_ne_zero]

namespace IsWellFormed

variable {b : Builder}

/-- There is a single table unless the number of tables says otherwise. -/
private theorem fault?_singleTable (h : b.IsWellFormed) :
    fault? b.singleTable = tableShortage? b.mode (b.clauses.count .table) := by
  -- All fragments of the clause are texts, so counting them counts the tables.
  have hget : b.clauses.get .table = (b.clauses.texts .table).map .text :=
    Clauses.get_eq_map_texts rfl (h.holds .table)
  rw [singleTable, Clauses.count, hget]
  rcases b.clauses.texts .table with _ | ⟨name, _ | ⟨name', names⟩⟩
  · rfl
  · rfl
  · rfl

private theorem fault?_renderSelect (h : b.IsWellFormed) :
    fault? b.renderSelect =
      if b.clauses.count .table = 0 then some (.noTable .select) else none := by
  rw [renderSelect, Clauses.joined?_eq_ite (Clauses.get_eq_map_texts rfl (h.holds .table))]
  by_cases hcount : b.clauses.count .table = 0
  · rw [if_pos hcount, if_pos hcount]
    rfl
  · rw [if_neg hcount, if_neg hcount]
    cases b.clauses.page? <;> rfl

private theorem fault?_renderInsert (h : b.IsWellFormed) :
    fault? b.renderInsert = (tableShortage? b.mode (b.clauses.count .table)).or
      (if b.clauses.count .insertValue = 0 then some .noValues else none) := by
  rw [← h.fault?_singleTable, renderInsert]
  refine fault?_bind fun table => ?_
  -- Each fragment of the clause is a column with its value.
  have hcount : b.clauses.count .insertValue = b.insertColumns.length := by
    rw [Clauses.count, h.get_insertValue, List.length_map]
  rw [hcount, ← insertColumns]
  cases b.insertColumns with
  | nil => rfl
  | cons column columns => rfl

private theorem fault?_renderUpdate (h : b.IsWellFormed) :
    fault? b.renderUpdate = (tableShortage? b.mode (b.clauses.count .table)).or
      (if b.clauses.count .updateValue = 0 then some .noAssignments else none) := by
  rw [← h.fault?_singleTable, renderUpdate]
  refine fault?_bind fun table => ?_
  rw [Clauses.joined?_eq_ite (Clauses.get_eq_map_texts rfl (h.holds .updateValue))]
  by_cases hcount : b.clauses.count .updateValue = 0
  · rw [if_pos hcount, if_pos hcount]
    rfl
  · rw [if_neg hcount, if_neg hcount]
    rfl

private theorem fault?_renderDelete (h : b.IsWellFormed) :
    fault? b.renderDelete = tableShortage? b.mode (b.clauses.count .table) := by
  rw [← h.fault?_singleTable, renderDelete]
  cases b.singleTable <;> rfl

/-- Rendering fails for what is lacking, and for nothing else. -/
theorem fault?_render (h : b.IsWellFormed) :
    fault? b.render = shortage? b.mode (b.clauses.count .table) (b.clauses.count .insertValue)
      (b.clauses.count .updateValue) := by
  rw [render]
  cases hmode : b.mode with
  | select => exact h.fault?_renderSelect
  | insert =>
    have hinsert := h.fault?_renderInsert
    rw [hmode] at hinsert
    exact hinsert
  | update =>
    have hupdate := h.fault?_renderUpdate
    rw [hmode] at hupdate
    exact hupdate
  | delete =>
    have hdelete := h.fault?_renderDelete
    rw [hmode] at hdelete
    exact hdelete

end IsWellFormed

/-! ## Runs -/

/-- What the statement of a run lacks. -/
theorem fault?_render_run (calls : List Call) :
    fault? (empty.run calls).render =
      shortage? (lastMode .select calls) (calls.countP (Call.supplies .table))
        (calls.countP (Call.supplies .insertValue))
        (calls.countP (Call.supplies .updateValue)) := by
  rw [(isWellFormed_empty.run calls).fault?_render, mode_run, count_supplied_run (by decide),
    count_supplied_run (by decide), count_supplied_run (by decide)]
  rfl

/-- A call that switches the kind of statement names its table. -/
private theorem supplies_of_switchesTo? {call : Call} (h : call.switchesTo?.isSome = true) :
    call.supplies .table = true := by
  induction call with
  | insert name | update name | delete name => rfl
  | gated isOpen call ih =>
    cases isOpen with
    | true => exact ih h
    | false => cases h
  | _ => cases h

/-- The statement is a query only if no call switches the kind of statement. -/
private theorem filterMap_switchesTo?_of_lastMode {calls : List Call}
    (h : lastMode .select calls = .select) : calls.filterMap Call.switchesTo? = [] := by
  -- The last switch would be one to a query, and there is no such call.
  rw [← List.getLast?_eq_none_iff, Option.eq_none_iff_forall_ne_some]
  intro mode hlast
  rw [lastMode, hlast] at h
  obtain rfl : mode = .select := h
  obtain ⟨call, -, hswitch⟩ := List.mem_filterMap.1 (List.mem_of_getLast? hlast)
  exact switchesTo?_ne_select call hswitch

/-- What is no query is rendered with one table only. -/
private theorem countP_supplies_of_render {calls : List Call} {sql : String}
    (hsql : (empty.run calls).render = .ok sql) (hmode : lastMode .select calls ≠ .select) :
    calls.countP (Call.supplies .table) = 1 := by
  have hlack := fault?_render_run calls
  rw [fault?_eq_none.2 ⟨sql, hsql⟩, eq_comm, shortage?_eq_none] at hlack
  -- All kinds but a query ask for a single table.
  obtain ⟨hselect, -⟩ | ⟨-, htables⟩ | ⟨-, htables, -⟩ | ⟨-, htables, -⟩ := hlack
  · exact absurd hselect hmode
  · exact htables
  · exact htables
  · exact htables

/-- Two calls that switch the kind of statement name two tables. -/
private theorem not_render_of_switches {calls : List Call}
    (h : 2 ≤ (calls.filterMap Call.switchesTo?).length) (sql : String) :
    (empty.run calls).render ≠ .ok sql := by
  intro hsql
  have hmode : lastMode .select calls ≠ .select := fun hselect => by
    rw [filterMap_switchesTo?_of_lastMode hselect] at h
    cases h
  -- Each call that switches names a table, and there is one table only.
  have hle : calls.countP (fun call => call.switchesTo?.isSome) ≤
      calls.countP (Call.supplies .table) :=
    List.countP_mono_left fun call _ => supplies_of_switchesTo?
  rw [← List.length_filterMap_eq_countP, countP_supplies_of_render hsql hmode] at hle
  omega

/-- A table of its own and a switch of the kind of statement make two tables. -/
private theorem not_render_of_table_of_switch {calls : List Call} {named switching : Call}
    (hnamed : named ∈ calls) (htable : named.supplies .table = true)
    (hkeep : named.switchesTo? = none) (hswitching : switching ∈ calls)
    (hswitch : switching.switchesTo?.isSome = true) (sql : String) :
    (empty.run calls).render ≠ .ok sql := by
  intro hsql
  -- The calls that switch and the others are counted apart, and each lot names a table.
  let switches : Call → Bool := fun call => call.switchesTo?.isSome
  have hmode : lastMode .select calls ≠ .select := fun hselect => by
    have hnil := filterMap_switchesTo?_of_lastMode hselect
    have hnone := List.filterMap_eq_nil_iff.1 hnil switching hswitching
    rw [hnone] at hswitch
    cases hswitch
  have hsplit := List.countP_eq_countP_filter_add calls (Call.supplies .table) switches
  have hleft : 0 < (calls.filter switches).countP (Call.supplies .table) :=
    List.countP_pos_iff.2
      ⟨switching, List.mem_filter.2 ⟨hswitching, hswitch⟩, supplies_of_switchesTo? hswitch⟩
  have hright : 0 < (calls.filter fun call => !switches call).countP (Call.supplies .table) := by
    refine List.countP_pos_iff.2 ⟨named, List.mem_filter.2 ⟨hnamed, ?_⟩, htable⟩
    show (!named.switchesTo?.isSome) = true
    rw [hkeep]
    rfl
  rw [countP_supplies_of_render hsql hmode] at hsplit
  omega

/-- **Which runs of calls can be rendered**: a query that names a table, a DELETE that names one
    table only, and an INSERT or an UPDATE that does so and has a value or an assignment.  All
    others fail with what they lack.  So nothing is rendered where calls switch the kind of
    statement twice, or where they switch it and name a further table. -/
theorem render_run_eq_ok_iff (calls : List Call) :
    let mode := lastMode .select calls
    let tables := calls.countP (Call.supplies .table)
    ((∃ sql, (empty.run calls).render = .ok sql) ↔
      mode = .select ∧ 1 ≤ tables ∨ mode = .delete ∧ tables = 1 ∨
        mode = .insert ∧ tables = 1 ∧ (∃ call ∈ calls, call.supplies .insertValue) ∨
        mode = .update ∧ tables = 1 ∧ ∃ call ∈ calls, call.supplies .updateValue) ∧
      (∀ e, (empty.run calls).render = .error e ↔
        shortage? mode tables (calls.countP (Call.supplies .insertValue))
          (calls.countP (Call.supplies .updateValue)) = some e) ∧
      (2 ≤ (calls.filterMap Call.switchesTo?).length →
        ∀ sql, (empty.run calls).render ≠ .ok sql) ∧
      ∀ named ∈ calls, ∀ switching ∈ calls, named.supplies .table → named.switchesTo? = none →
        switching.switchesTo?.isSome → ∀ sql, (empty.run calls).render ≠ .ok sql := by
  intro mode tables
  refine ⟨?_, fun e => ?_, not_render_of_switches, ?_⟩
  · rw [← fault?_eq_none, fault?_render_run, shortage?_eq_none]
    simp only [List.one_le_countP_iff, mode, tables]
  · rw [← fault?_eq_some, fault?_render_run]
  · intro named hnamed switching hswitching htable hkeep hswitch
    exact not_render_of_table_of_switch hnamed htable hkeep hswitching hswitch

end Builder

end SqlAssembly
