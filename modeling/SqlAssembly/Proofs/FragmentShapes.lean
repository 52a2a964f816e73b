import Mathlib.Data.List.Basic
import SqlAssembly.Proofs.RunFragments
import SqlAssembly.Proofs.StatementText

/-! # Every clause has fragments of its own sort

The store of the clauses takes any fragment under any clause, and the renderer passes over those of
another sort than it looks for.  Nothing is ever passed over, though: the calls of a builder put
into each clause only what belongs there, and a SELECT has neither an upsert nor an identity
because no call switches back to it.

* `Clause.Holds`               the fragments that belong to a clause
* `Builder.IsWellFormed`       the invariant
* `Builder.IsWellFormed.apply`, `Builder.IsWellFormed.run`   calls keep it
* `Builder.isWellFormed_run_and_complete`   it holds after every run, and no fragment is lost -/

namespace SqlAssembly

/-! ## What belongs to a clause -/

namespace Clause

/-- Whether the clause is made of texts. -/
def isText : Clause → Bool
  | table | select | join | condition | groupBy | orderBy | updateValue => true
  | _ => false

/-- Whether the clause has one fragment at most. -/
def isSingle : Clause → Bool
  | limit | page | forUpdate => true
  | _ => false

/-- Whether a fragment is of the sort that belongs to a clause. -/
def Holds : Clause → Fragment → Prop
  | limit, f => ∃ offset rows, f = .limit offset rows
  | page, f => ∃ window, f = .page window
  | forUpdate, f => f = .forUpdate
  | insertValue, f => ∃ field value, f = .column field value
  | duplicateUpdate, f => ∃ field value, f = .duplicate field value
  | _, f => ∃ s, f = .text s

private theorem holds_of_isText {k : Clause} (h : k.isText = true) {f : Fragment} :
    k.Holds f ↔ ∃ s, f = .text s := by
  cases k with
  | limit | page | forUpdate | insertValue | duplicateUpdate => cases h
  | _ => exact Iff.rfl

end Clause

/-- A list is what a view makes of its elements, if the view misses none of them. -/
private theorem eq_map_filterMap {α β : Type} {view : α → Option β} {make : β → α} {xs : List α}
    (h : ∀ x ∈ xs, (view x).map make = some x) : xs = (xs.filterMap view).map make := by
  rw [List.map_filterMap, List.filterMap_congr h, List.filterMap_some]

namespace Clauses

variable {c : Clauses}

/-- A clause of texts is made of the texts that are joined. -/
theorem get_eq_map_texts {k : Clause} (hk : k.isText = true) (h : ∀ f ∈ c.get k, k.Holds f) :
    c.get k = (c.texts k).map .text := by
  refine eq_map_filterMap fun f hf => ?_
  obtain ⟨s, rfl⟩ := (Clause.holds_of_isText hk).1 (h f hf)
  rfl

/-- The texts of a clause are joined unless there are none. -/
theorem joined?_eq_ite {k : Clause} (hget : c.get k = (c.texts k).map .text) :
    c.joined? k =
      if c.count k = 0 then none else some (k.separator.intercalate (c.texts k)) := by
  -- All fragments are texts, so that there are as many of the one as of the other.
  have hcount : c.count k = (c.texts k).length := by rw [count, hget, List.length_map]
  rw [hcount, joined?]
  cases c.texts k with
  | nil => rfl
  | cons s texts => rfl

end Clauses

namespace Builder

/-! ## What calls add -/

/-- A call adds to a clause what belongs there. -/
private theorem holds_of_mem_added {mode : Mode} {call : Call} {k : Clause} {f : Fragment}
    (h : (k, f) ∈ call.added mode) : k.Holds f := by
  -- All fragments of a call go to one clause, and are of the form that it takes.
  induction call with
  | configure config | selectIdentity | clearSelect => exact absurd h List.not_mem_nil
  | table name | tableAs name aliasName | insert name | update name | delete name
  | setLiteral field expr | condition text args | conditionIn field values
  | join kind name aliasName on | orderBy field direction =>
    obtain ⟨rfl, rfl⟩ := Prod.mk.inj (List.mem_singleton.1 h)
    exact ⟨_, rfl⟩
  | value field value | valueLiteral field expr | limit offset rows =>
    obtain ⟨rfl, rfl⟩ := Prod.mk.inj (List.mem_singleton.1 h)
    exact ⟨_, _, rfl⟩
  | duplicate field expr =>
    rw [Call.added] at h
    split at h
    · obtain ⟨rfl, rfl⟩ := Prod.mk.inj (List.mem_singleton.1 h)
      exact ⟨_, _, rfl⟩
    · exact absurd h List.not_mem_nil
  | set field value =>
    obtain ⟨name, -, heq⟩ := List.mem_map.1 h
    obtain ⟨rfl, rfl⟩ := Prod.mk.inj heq
    exact ⟨_, rfl⟩
  | select fields | groupBy fields =>
    obtain ⟨field, -, heq⟩ := List.mem_map.1 h
    obtain ⟨rfl, rfl⟩ := Prod.mk.inj heq
    exact ⟨_, rfl⟩
  | forUpdate =>
    obtain ⟨rfl, rfl⟩ := Prod.mk.inj (List.mem_singleton.1 h)
    rfl
  | page index size countRows totals =>
    obtain ⟨rfl, rfl⟩ := Prod.mk.inj (List.mem_singleton.1 h)
    exact ⟨_, rfl⟩
  | gated isOpen call ih =>
    cases isOpen with
    | true => exact ih h
    | false => exact absurd h List.not_mem_nil

/-- A call that adds to a clause of one fragment drops the old one. -/
private theorem mem_replaced_of_isSingle {k : Clause} (hk : k.isSingle = true) {mode : Mode}
    {call : Call} {f : Fragment} (h : (k, f) ∈ call.added mode) : k ∈ call.replaced := by
  -- The calls that drop nothing add to other clauses.
  induction call with
  | configure config | selectIdentity | clearSelect => exact absurd h List.not_mem_nil
  | table name | tableAs name aliasName | insert name | update name | delete name
  | value field value | valueLiteral field expr | setLiteral field expr | condition text args
  | conditionIn field values | join kind name aliasName on | orderBy field direction =>
    obtain ⟨rfl, -⟩ := Prod.mk.inj (List.mem_singleton.1 h)
    cases hk
  | duplicate field expr =>
    rw [Call.added] at h
    split at h
    · obtain ⟨rfl, -⟩ := Prod.mk.inj (List.mem_singleton.1 h)
      cases hk
    · exact absurd h List.not_mem_nil
  | set field value =>
    obtain ⟨name, -, heq⟩ := List.mem_map.1 h
    obtain ⟨rfl, -⟩ := Prod.mk.inj heq
    cases hk
  | select fields | groupBy fields =>
    obtain ⟨field, -, heq⟩ := List.mem_map.1 h
    obtain ⟨rfl, -⟩ := Prod.mk.inj heq
    cases hk
  | limit offset rows | forUpdate | page index size countRows totals =>
    obtain ⟨rfl, -⟩ := Prod.mk.inj (List.mem_singleton.1 h)
    exact List.mem_cons_self
  | gated isOpen call ih =>
    cases isOpen with
    | true => exact ih h
    | false => exact absurd h List.not_mem_nil

/-- Nothing but an INSERT gets an upsert. -/
private theorem not_mem_added_select {call : Call} {f : Fragment} :
    (.duplicateUpdate, f) ∉ call.added .select := by
  intro h
  obtain ⟨field, expr, rfl⟩ := holds_of_mem_added h
  induction call with
  | duplicate field' expr' =>
    -- In a SELECT the call itself adds nothing.
    rw [Call.added, if_neg fun hif => absurd hif.1 (by decide)] at h
    exact absurd h List.not_mem_nil
  | gated isOpen call ih =>
    cases isOpen with
    | true => exact ih h
    | false => exact absurd h List.not_mem_nil
  | _ => simp [Call.added] at h

/-! ## The invariant -/

/-- Whether each clause has fragments of its own sort only, those that are replaced have one at
    most, and a SELECT has nothing that belongs to an INSERT. -/
structure IsWellFormed (b : Builder) : Prop where
  holds : ∀ k, ∀ f ∈ b.clauses.get k, k.Holds f
  single : ∀ k, k.isSingle = true → b.clauses.count k ≤ 1
  upsert : b.mode = .select → b.clauses.get .duplicateUpdate = []
  identity : b.mode = .select → b.identity = false

theorem isWellFormed_empty : empty.IsWellFormed :=
  ⟨fun _ _ hf => absurd hf List.not_mem_nil, fun _ _ => Nat.zero_le 1, fun _ => rfl, fun _ => rfl⟩

namespace IsWellFormed

variable {b : Builder}

/-- A call keeps a builder well-formed. -/
theorem apply (h : b.IsWellFormed) (call : Call) : (b.apply call).IsWellFormed := by
  -- What was there is fine by `h`, what the call adds by the lemmas above.
  refine ⟨fun k f hf => ?_, fun k hk => ?_, fun hmode => ?_, fun hmode => ?_⟩
  · rcases mem_get_clauses_apply hf with hf | hf
    · exact h.holds k f hf
    · exact holds_of_mem_added hf
  · rw [Clauses.count, get_clauses_apply]
    split
    · -- A clause that is dropped first gets one fragment at most.
      rename_i hdrop
      rw [List.nil_append]
      exact Nat.le_trans (List.length_filterMap_le _ _) (length_added_le_one hdrop b.mode)
    · rename_i hkeep
      -- One that is kept gets none, as adding to it would have dropped it.
      have hnil : k.pick (call.added b.mode) = [] :=
        Clause.pick_eq_nil fun f hf => hkeep (mem_replaced_of_isSingle hk hf)
      rw [hnil, List.append_nil]
      exact h.single k hk
  · -- No call makes a SELECT of another statement, so that it was one before.
    have hbefore := mode_eq_select_of_apply hmode
    rw [List.eq_nil_iff_forall_not_mem]
    intro f hf
    rcases mem_get_clauses_apply hf with hf | hf
    · rw [h.upsert hbefore] at hf
      exact absurd hf List.not_mem_nil
    · rw [hbefore] at hf
      exact not_mem_added_select hf
  · have hbefore := mode_eq_select_of_apply hmode
    rw [identity_apply, h.identity hbefore, hbefore]
    rfl

/-- Calls keep a builder well-formed. -/
theorem run (h : b.IsWellFormed) (calls : List Call) : (b.run calls).IsWellFormed := by
  induction calls generalizing b with
  | nil => exact h
  | cons call calls ih => exact ih (h.apply call)

/-- The columns of an INSERT are all there. -/
theorem get_insertValue (h : b.IsWellFormed) :
    b.clauses.get .insertValue = b.insertColumns.map fun c => .column c.1 c.2 := by
  -- Only columns belong there, so that the view passes over nothing.
  refine eq_map_filterMap fun f hf => ?_
  obtain ⟨field, value, rfl⟩ := h.holds .insertValue f hf
  rfl

end IsWellFormed

/-- The assignments of an upsert. -/
def upserts (b : Builder) : List (String × String) :=
  (b.clauses.get .duplicateUpdate).filterMap Fragment.duplicate?

/-- The assignments of an upsert are all there. -/
private theorem IsWellFormed.get_duplicateUpdate {b : Builder} (h : b.IsWellFormed) :
    b.clauses.get .duplicateUpdate = b.upserts.map fun d => .duplicate d.1 d.2 := by
  refine eq_map_filterMap fun f hf => ?_
  obtain ⟨field, value, rfl⟩ := h.holds .duplicateUpdate f hf
  rfl

/-- **Every clause has fragments of its own sort, and none is passed over**: behind any calls the
    clauses are well-formed, the fragments of each stand in the order of the calls, all texts of a
    clause are joined, and an INSERT has a column, a value and an assignment for each fragment. -/
theorem isWellFormed_run_and_complete (calls : List Call) :
    let b := empty.run calls
    b.IsWellFormed ∧
      (∀ k, b.clauses.get k = kept k .select calls) ∧
      (∀ k, k.isText = true →
        b.clauses.get k = (b.clauses.texts k).map .text ∧
          (b.clauses.texts k).length = b.clauses.count k ∧
          b.clauses.joined? k =
            if b.clauses.count k = 0 then none
            else some (k.separator.intercalate (b.clauses.texts k))) ∧
      b.clauses.get .insertValue = (b.insertColumns.map fun c => .column c.1 c.2) ∧
      b.clauses.get .duplicateUpdate = (b.upserts.map fun d => .duplicate d.1 d.2) ∧
      (b.insertColumns.map (·.1)).length = b.clauses.count .insertValue ∧
      (b.insertColumns.map (·.2)).length = b.clauses.count .insertValue ∧
      b.upserts.length = b.clauses.count .duplicateUpdate ∧
      ∀ sql, b.mode = .insert → b.render = .ok sql →
        ∃ table, b.clauses.get .table = [.text table] ∧
          sql = "INSERT INTO " ++ table ++ " (" ++ ",".intercalate (b.insertColumns.map (·.1)) ++
            ") VALUES (" ++ ",".intercalate (b.insertColumns.map (·.2)) ++ ")" ++
            (if b.upserts.isEmpty then ""
            else " ON DUPLICATE KEY UPDATE " ++
              ",".intercalate (b.upserts.map fun d => d.1 ++ "=" ++ d.2)) ++ b.identityText := by
  intro b
  have h : b.IsWellFormed := isWellFormed_empty.run calls
  have hcolumns := h.get_insertValue
  have hupserts := h.get_duplicateUpdate
  have hlength : b.insertColumns.length = b.clauses.count .insertValue := by
    rw [Clauses.count, hcolumns, List.length_map]
  refine ⟨h, fun k => ?_, fun k hk => ?_, hcolumns, hupserts, ?_, ?_, ?_, fun sql hmode hsql => ?_⟩
  · have hrun := get_clauses_run empty k calls
    -- With nothing to begin with, what is kept is what the calls have left.
    have hempty : empty.clauses.get k = [] := rfl
    rw [hempty, ite_self] at hrun
    exact hrun
  · have hget := Clauses.get_eq_map_texts hk (h.holds k)
    refine ⟨hget, ?_, Clauses.joined?_eq_ite hget⟩
    rw [Clauses.count, hget, List.length_map]
  · rw [List.length_map, hlength]
  · rw [List.length_map, hlength]
  · rw [Clauses.count, hupserts, List.length_map]
  · rw [render, hmode] at hsql
    -- An INSERT that is rendered has one table, and the text is put together from there.
    obtain ⟨table, htable, -, rfl⟩ := renderInsert_eq_ok hsql
    exact ⟨table, htable, rfl⟩

end Builder

end SqlAssembly
