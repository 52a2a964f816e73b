import SqlAssembly.Proofs.AddedFragments

/-! # What a run of calls leaves in the clauses

A fragment stays until a later call drops its clause, and no other call touches it.  So the
fragments of a clause behind a run can be read off the calls, in their order.  The kind of
statement matters to one sort of calls only, and it is that of the last call that switches it.

* `Builder.lastMode`          the kind of statement that calls end in
* `Builder.identity_run_iff`  when the identity of a new row is asked for
* `Builder.kept`              the fragments that calls add to a clause and do not drop again
* `Builder.get_clauses_run`   the fragments of a clause behind a run
* `Builder.count_run`         their number, for a clause to which each call adds one or none -/

namespace SqlAssembly.Builder

/-! ## Kinds of statements -/

/-- The kind of statement that a call switches to. -/
def Call.switchesTo? : Call → Option Mode
  | .insert _ => some .insert
  | .update _ => some .update
  | .delete _ => some .delete
  | .gated isOpen call => if isOpen then call.switchesTo? else none
  | _ => none

/-- The kind of statement that calls end in: the last one that a call switches to, or else the one
    that there was. -/
def lastMode (mode : Mode) (calls : List Call) : Mode :=
  (calls.filterMap Call.switchesTo?).getLast?.getD mode

/-- No call switches back to a SELECT. -/
theorem switchesTo?_ne_select (call : Call) : call.switchesTo? ≠ some .select := by
  induction call with
  | gated isOpen call ih =>
    cases isOpen with
    | true => exact ih
    | false => rintro ⟨⟩
  | _ => rintro ⟨⟩

/-- A call keeps the kind of statement unless it switches it. -/
theorem mode_apply (b : Builder) (call : Call) :
    (b.apply call).mode = call.switchesTo?.getD b.mode := by
  induction call with
  | duplicate field expr =>
    rw [apply_duplicate]
    split <;> rfl
  | selectIdentity =>
    rw [apply_selectIdentity]
    split <;> rfl
  | set field value =>
    rw [apply_set]
    cases parameterName? field <;> rfl
  | conditionIn field values =>
    rw [apply_conditionIn]
    split <;> rfl
  | gated isOpen call ih =>
    cases isOpen with
    | true => exact ih
    | false => rfl
  | _ => rfl

/-- The kind of statement behind a call is that of a SELECT only if it was before. -/
theorem mode_eq_select_of_apply {b : Builder} {call : Call} (h : (b.apply call).mode = .select) :
    b.mode = .select := by
  rw [mode_apply] at h
  cases hswitch : call.switchesTo? with
  | none => rwa [hswitch] at h
  | some mode =>
    rw [hswitch] at h
    -- The call would have switched to a SELECT.
    obtain rfl : mode = .select := h
    exact absurd hswitch (switchesTo?_ne_select call)

private theorem lastMode_cons (mode : Mode) (call : Call) (calls : List Call) :
    lastMode mode (call :: calls) = lastMode (call.switchesTo?.getD mode) calls := by
  rw [lastMode, List.filterMap_cons]
  cases call.switchesTo? with
  | none => rfl
  | some mode' =>
    -- A later switch hides this one.
    rw [List.getLast?_cons]
    rfl

theorem mode_run (b : Builder) (calls : List Call) :
    (b.run calls).mode = lastMode b.mode calls := by
  induction calls generalizing b with
  | nil => rfl
  | cons call calls ih =>
    rw [run_cons, ih, mode_apply, lastMode_cons]

/-! ## Identities -/

/-- Whether a call asks for the identity of the new row. -/
def Call.asksIdentity : Call → Bool
  | .selectIdentity => true
  | .gated isOpen call => isOpen && call.asksIdentity
  | _ => false

/-- The identity is asked for where a call does so in an INSERT. -/
theorem identity_apply (b : Builder) (call : Call) :
    (b.apply call).identity = (b.identity || (b.mode = .insert && call.asksIdentity)) := by
  -- All but one sort of calls leave it as it is.
  have hkeep : b.identity = (b.identity || (b.mode = .insert && false)) := by
    rw [Bool.and_false, Bool.or_false]
  induction call with
  | selectIdentity =>
    rw [apply_selectIdentity]
    by_cases hmode : b.mode = .insert
    · rw [if_pos hmode, decide_eq_true hmode]
      exact (Bool.or_true b.identity).symm
    · rw [if_neg hmode, decide_eq_false hmode]
      exact (Bool.or_false b.identity).symm
  | duplicate field expr =>
    rw [apply_duplicate]
    split <;> exact hkeep
  | set field value =>
    rw [apply_set]
    cases parameterName? field <;> exact hkeep
  | conditionIn field values =>
    rw [apply_conditionIn]
    split <;> exact hkeep
  | gated isOpen call ih =>
    cases isOpen with
    | true => exact ih
    | false => exact hkeep
  | _ => exact hkeep

/-- Behind a run the identity is asked for if it was before, or if a call did so while the statement
    was an INSERT. -/
theorem identity_run_iff (b : Builder) (calls : List Call) :
    (b.run calls).identity = true ↔
      b.identity = true ∨ ∃ before call after, calls = before ++ call :: after ∧
        lastMode b.mode before = .insert ∧ call.asksIdentity = true := by
  induction calls generalizing b with
  | nil => simp [run]
  | cons call calls ih =>
    rw [run_cons, ih, identity_apply, mode_apply, Bool.or_eq_true, Bool.and_eq_true,
      decide_eq_true_eq, or_assoc]
    refine or_congr_right ⟨?_, ?_⟩
    · -- The first call asks for it, or a later one does.
      rintro (⟨hmode, hasks⟩ | ⟨before, asking, after, rfl, hmode, hasks⟩)
      · exact ⟨[], call, calls, rfl, hmode, hasks⟩
      · refine ⟨call :: before, asking, after, rfl, ?_, hasks⟩
        rwa [lastMode_cons]
    · rintro ⟨before, asking, after, hsplit, hmode, hasks⟩
      cases before with
      | nil =>
        -- Nothing stands in front of the call that asks, so it is the first one.
        obtain ⟨rfl, -⟩ := List.cons.inj hsplit
        exact .inl ⟨hmode, hasks⟩
      | cons first before =>
        obtain ⟨rfl, rfl⟩ := List.cons.inj hsplit
        rw [lastMode_cons] at hmode
        exact .inr ⟨before, asking, after, rfl, hmode, hasks⟩

/-! ## Fragments -/

/-- Whether a call drops the fragments of a clause. -/
def Call.drops (k : Clause) (call : Call) : Bool := k ∈ call.replaced

/-- The fragments that calls add to a clause of a statement of kind `mode`, in the order of the
    calls, without those that a later call drops. -/
def kept (k : Clause) : Mode → List Call → List Fragment
  | _, [] => []
  | mode, call :: calls =>
    let later := kept k (call.switchesTo?.getD mode) calls
    if calls.any (Call.drops k) then later else k.pick (call.added mode) ++ later

/-- The fragments of a clause behind a run are those that no call drops: the ones before the run
    and then the ones that the calls add. -/
theorem get_clauses_run (b : Builder) (k : Clause) (calls : List Call) :
    (b.run calls).clauses.get k =
      (if calls.any (Call.drops k) then [] else b.clauses.get k) ++ kept k b.mode calls := by
  induction calls generalizing b with
  | nil => exact (List.append_nil _).symm
  | cons call calls ih =>
    rw [run_cons, ih, mode_apply, get_clauses_apply, kept, List.any_cons]
    cases hlater : calls.any (Call.drops k) with
    | true => rw [Bool.or_true, if_pos rfl, if_pos rfl, if_pos rfl]
    | false =>
      -- Without a later drop, what the call leaves of the clause and what it adds stay.
      rw [Bool.or_false, if_neg Bool.false_ne_true, if_neg Bool.false_ne_true, List.append_assoc]
      simp only [Call.drops, decide_eq_true_eq]

/-! ## Counting -/

/-- The number of fragments of a clause behind a run is the number of calls that add one, if no
    call drops any. -/
theorem count_run {k : Clause} {adds : Call → Bool} (hdrops : ∀ call : Call, k ∉ call.replaced)
    (hadds : ∀ (mode : Mode) (call : Call),
      (k.pick (call.added mode)).length = if adds call then 1 else 0)
    (b : Builder) (calls : List Call) :
    (b.run calls).clauses.count k = b.clauses.count k + calls.countP adds := by
  induction calls generalizing b with
  | nil => rfl
  | cons call calls ih =>
    -- A call adds one fragment or none to what is there.
    have hstep : (b.apply call).clauses.count k =
        b.clauses.count k + if adds call then 1 else 0 := by
      rw [Clauses.count, get_clauses_apply, if_neg (hdrops call), List.length_append, hadds]
      rfl
    rw [run_cons, ih, hstep, List.countP_cons, Nat.add_assoc, Nat.add_comm (calls.countP adds)]

end SqlAssembly.Builder
