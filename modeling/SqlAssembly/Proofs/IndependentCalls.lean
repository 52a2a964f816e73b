import SqlAssembly.Proofs.CallWrites
import SqlAssembly.Proofs.RunFragments
import SqlAssembly.Proofs.StatementText

/-! # Calls that do not depend on each other

As long as the kind of statement stays, what a call does to a clause depends on this clause only.
So a run can be taken apart: the fragments of a clause are those that the calls which touch it leave
on their own.  Two runs with the same calls for each clause, in the same order there, make the same
statement, however the calls for different clauses are mixed.  The parameters are the same too, if
no name is bound by calls for different clauses.

* `Builder.Call.touches`              whether a call changes a clause
* `Builder.get_clauses_run_filter`    the calls that touch a clause make up what is in it
* `Builder.BindsApart`                whether calls for different clauses bind different names
* `Builder.history_writes_filter`     the calls that touch one clause make up how a name is bound
* `Builder.render_run_eq_of_filter_touches`   runs that differ in how the calls are mixed -/

namespace SqlAssembly.Builder

open Placeholder

variable {b c : Builder} {k : Clause} {call : Call} {calls xs ys : List Call}

/-! ## Clauses -/

/-- Whether a call changes a clause of statements of kind `mode`: it drops the fragments of the
    clause or adds to them. -/
def Call.touches (mode : Mode) (k : Clause) (call : Call) : Bool :=
  call.drops k || !(k.pick (call.added mode)).isEmpty

/-- A call that does not touch a clause leaves it as it is. -/
private theorem get_clauses_apply_of_not_touches (h : ¬ call.touches b.mode k) :
    (b.apply call).clauses.get k = b.clauses.get k := by
  rw [Call.touches, Bool.or_eq_true, not_or, Bool.not_eq_true', Bool.not_eq_false,
    List.isEmpty_iff] at h
  obtain ⟨hdrops, hadds⟩ := h
  -- The call neither drops the clause nor adds to it.
  have hkeep : k ∉ call.replaced := fun hmem => hdrops (decide_eq_true hmem)
  rw [get_clauses_apply, hadds, if_neg hkeep, List.append_nil]

/-- A call touches a clause if it changes the clause in some state. -/
theorem touches_iff_exists_ne (mode : Mode) :
    call.touches mode k ↔
      ∃ b : Builder, b.mode = mode ∧ (b.apply call).clauses.get k ≠ b.clauses.get k := by
  constructor
  · intro h
    -- Dropping shows where there are two fragments, adding where there are none.
    by_cases hdrops : k ∈ call.replaced
    · let b : Builder :=
        { empty with mode, clauses := Clauses.empty.set k [.forUpdate, .forUpdate] }
      have hbefore : b.clauses.get k = [.forUpdate, .forUpdate] := Clauses.get_set_self ..
      refine ⟨b, rfl, fun hsame => ?_⟩
      -- One fragment cannot stand in the place of two.
      have hlength := length_added_le_one hdrops mode
      have hpick : (k.pick (call.added mode)).length ≤ (call.added mode).length :=
        List.length_filterMap_le _ _
      rw [get_clauses_apply, if_pos hdrops, List.nil_append, hbefore] at hsame
      rw [hsame, List.length_cons, List.length_cons] at hpick
      omega
    · refine ⟨{ empty with mode }, rfl, fun hsame => ?_⟩
      rw [get_clauses_apply, if_neg hdrops, List.append_right_eq_self] at hsame
      rw [Call.touches, Call.drops, decide_eq_false hdrops, hsame] at h
      cases h
  · rintro ⟨b, rfl, hne⟩
    by_contra h
    exact hne (get_clauses_apply_of_not_touches h)

/-- The clause that a call is about. -/
def Call.target? : Call → Option Clause
  | .configure _ | .selectIdentity => none
  | .table _ | .tableAs .. | .insert _ | .update _ | .delete _ => some .table
  | .value .. | .valueLiteral .. => some .insertValue
  | .duplicate .. => some .duplicateUpdate
  | .set .. | .setLiteral .. => some .updateValue
  | .condition .. | .conditionIn .. => some .condition
  | .join .. => some .join
  | .select _ | .clearSelect => some .select
  | .groupBy _ => some .groupBy
  | .orderBy .. => some .orderBy
  | .limit .. => some .limit
  | .page .. => some .page
  | .forUpdate => some .forUpdate
  | .gated isOpen call => if isOpen then call.target? else none

/-- A call adds to the clause that it is about. -/
private theorem target?_of_mem_added {mode : Mode} {f : Fragment} (h : (k, f) ∈ call.added mode) :
    call.target? = some k := by
  -- The calls that add several fragments add them all to one clause.
  induction call with
  | configure config | selectIdentity | clearSelect => exact absurd h List.not_mem_nil
  | duplicate field expr =>
    rw [Call.added] at h
    split at h
    · obtain ⟨rfl, -⟩ := Prod.mk.inj (List.mem_singleton.1 h)
      rfl
    · exact absurd h List.not_mem_nil
  | set field value | select fields | groupBy fields =>
    obtain ⟨name, -, heq⟩ := List.mem_map.1 h
    obtain ⟨rfl, -⟩ := Prod.mk.inj heq
    rfl
  | gated isOpen call ih =>
    cases isOpen with
    | true => exact ih h
    | false => exact absurd h List.not_mem_nil
  | _ =>
    obtain ⟨rfl, -⟩ := Prod.mk.inj (List.mem_singleton.1 h)
    rfl

/-- A call drops the fragments of no other clause than the one that it is about. -/
private theorem target?_of_mem_replaced (h : k ∈ call.replaced) : call.target? = some k := by
  induction call with
  | clearSelect | limit offset rows | forUpdate | page index size countRows totals =>
    obtain rfl := List.mem_singleton.1 h
    rfl
  | gated isOpen call ih =>
    cases isOpen with
    | true => exact ih h
    | false => exact absurd h List.not_mem_nil
  | _ => exact absurd h List.not_mem_nil

/-- A call touches no other clause than the one that it is about. -/
private theorem target?_of_touches {mode : Mode} (h : call.touches mode k) :
    call.target? = some k := by
  rw [Call.touches, Bool.or_eq_true, Bool.not_eq_true', List.isEmpty_eq_false_iff_exists_mem] at h
  rcases h with hdrops | ⟨f, hf⟩
  · exact target?_of_mem_replaced (of_decide_eq_true hdrops)
  · exact target?_of_mem_added (Clause.mem_pick.1 hf)

private theorem mode_apply_of_switchesTo? (h : call.switchesTo? = none) :
    (b.apply call).mode = b.mode := by
  rw [mode_apply, h]
  rfl

/-- Behind calls that keep the kind of statement, a clause holds what the calls that touch it leave
    on their own. -/
theorem get_clauses_run_filter (hcalls : ∀ call ∈ calls, call.switchesTo? = none)
    (hmode : b.mode = c.mode) (hget : b.clauses.get k = c.clauses.get k) :
    (b.run calls).clauses.get k =
      (c.run (calls.filter (Call.touches b.mode k))).clauses.get k := by
  -- The two runs go on side by side.  They agree on the clause, though the one makes more calls.
  induction calls generalizing b c with
  | nil => exact hget
  | cons call calls ih =>
    obtain ⟨hcall, hrest⟩ := List.forall_mem_cons.1 hcalls
    have hb := mode_apply_of_switchesTo? (b := b) hcall
    have hc := mode_apply_of_switchesTo? (b := c) hcall
    rw [run_cons]
    by_cases htouches : call.touches b.mode k = true
    · -- Both make the call, and it does the same to the clause.
      have hstep : (b.apply call).clauses.get k = (c.apply call).clauses.get k := by
        rw [get_clauses_apply, get_clauses_apply, hget, hmode]
      rw [List.filter_cons_of_pos htouches, run_cons,
        ih hrest (hb.trans (hmode.trans hc.symm)) hstep, hb]
    · -- Only one makes the call, and it leaves the clause alone.
      have hstep : (b.apply call).clauses.get k = c.clauses.get k := by
        rw [get_clauses_apply_of_not_touches htouches, hget]
      rw [List.filter_cons_of_neg htouches, ih hrest (hb.trans hmode) hstep, hb]

/-! ## The kind of statement and the identity -/

theorem mode_run_of_switchesTo? (hcalls : ∀ call ∈ calls, call.switchesTo? = none) :
    (b.run calls).mode = b.mode := by
  rw [mode_run, lastMode, List.filterMap_eq_nil_iff.2 hcalls]
  rfl

/-- The identity is asked for behind a run if it was before, or if a call does so in an INSERT. -/
private theorem identity_run_of_switchesTo? (hcalls : ∀ call ∈ calls, call.switchesTo? = none) :
    (b.run calls).identity = (b.identity || (b.mode = .insert && calls.any Call.asksIdentity)) := by
  -- The kind of statement stays the same, so that it decides for all calls alike.
  induction calls generalizing b with
  | nil => rw [List.any_nil, Bool.and_false, Bool.or_false]; rfl
  | cons call calls ih =>
    obtain ⟨hcall, hrest⟩ := List.forall_mem_cons.1 hcalls
    rw [run_cons, ih hrest, identity_apply, mode_apply_of_switchesTo? hcall, List.any_cons,
      Bool.and_or_distrib_left, Bool.or_assoc]

/-! ## Parameters -/

/-- A call that binds a name touches a clause. -/
private theorem exists_touches_of_boundNames {n : String} (h : n ∈ call.boundNames) (mode : Mode) :
    ∃ k, call.touches mode k := by
  -- A call that binds a name adds the fragment with its placeholder.
  induction call with
  | value field v => exact ⟨.insertValue, rfl⟩
  | set field v =>
    cases hname : parameterName? field with
    | none =>
      rw [Call.boundNames, Call.writes, hname] at h
      exact absurd h List.not_mem_nil
    | some name =>
      refine ⟨.updateValue, ?_⟩
      rw [Call.touches, Call.added, hname]
      rfl
  | condition text args | conditionIn field values => exact ⟨.condition, rfl⟩
  | gated isOpen call ih =>
    cases isOpen with
    | true => exact ih h
    | false => exact absurd h List.not_mem_nil
  | _ => exact absurd h List.not_mem_nil

/-- Whether calls bind no name that calls for another clause bind. -/
def BindsApart (mode : Mode) (calls : List Call) : Prop :=
  ∀ call ∈ calls, ∀ call' ∈ calls, ∀ k k', call.touches mode k → call'.touches mode k' → k ≠ k' →
    ∀ n ∈ call.boundNames, n ∉ call'.boundNames

/-- Calls bind apart if those about different clauses do. -/
private theorem bindsApart_of_target? (h : ∀ call ∈ calls, ∀ call' ∈ calls,
    call.target? ≠ call'.target? → ∀ n ∈ call.boundNames, n ∉ call'.boundNames) (mode : Mode) :
    BindsApart mode calls := by
  intro call hcall call' hcall' k k' hk hk' hne
  refine h call hcall call' hcall' fun hsame => hne ?_
  rw [target?_of_touches hk, target?_of_touches hk'] at hsame
  exact Option.some.inj hsame

/-- Elements of which a function makes nothing may be left out. -/
private theorem flatMap_filter_of_eq_nil {α β : Type} {f : α → List β} {p : α → Bool} {l : List α}
    (h : ∀ a ∈ l, ¬ p a → f a = []) : (l.filter p).flatMap f = l.flatMap f := by
  induction l with
  | nil => rfl
  | cons a l ih =>
    obtain ⟨ha, hl⟩ := List.forall_mem_cons.1 h
    -- An element that is left out adds nothing to the rest.
    by_cases hp : p a = true
    · rw [List.filter_cons_of_pos hp, List.flatMap_cons, List.flatMap_cons, ih hl]
    · rw [List.filter_cons_of_neg hp, List.flatMap_cons, ha hp, ih hl, List.nil_append]

/-- If all calls that bind a name touch one clause, those that touch it make up how the name is
    bound. -/
theorem history_writes_filter {mode : Mode} {n : String}
    (h : ∀ call ∈ calls, clean n ∈ call.boundNames → call.touches mode k) :
    Params.history n ((calls.filter (Call.touches mode k)).flatMap Call.writes) =
      Params.history n (calls.flatMap Call.writes) := by
  rw [Params.history, Params.history, List.flatMap_assoc, List.flatMap_assoc]
  -- A call that is left out does not bind the name.
  refine flatMap_filter_of_eq_nil fun call hcall htouches => ?_
  exact Params.history_eq_nil fun hname => htouches (h call hcall hname)

/-- How a name is bound depends only on the order of the calls for each clause. -/
private theorem history_writes_eq {mode : Mode}
    (htouches : ∀ k, xs.filter (Call.touches mode k) = ys.filter (Call.touches mode k))
    (hapart : BindsApart mode xs) (n : String) :
    Params.history n (xs.flatMap Call.writes) = Params.history n (ys.flatMap Call.writes) := by
  -- What binds a name touches a clause, so that it is in both runs.
  have hshared : ∀ {call : Call}, call ∈ ys → clean n ∈ call.boundNames → call ∈ xs := by
    intro call hcall hname
    obtain ⟨k, hk⟩ := exists_touches_of_boundNames hname mode
    have hmem : call ∈ xs.filter (Call.touches mode k) := by
      rw [htouches k]
      exact List.mem_filter.2 ⟨hcall, hk⟩
    exact (List.mem_filter.1 hmem).1
  by_cases hbound : ∃ call ∈ xs, clean n ∈ call.boundNames
  · -- All calls that bind the name touch the clause that the first one touches.
    obtain ⟨first, hfirst, hname⟩ := hbound
    obtain ⟨k, hk⟩ := exists_touches_of_boundNames hname mode
    have hsame : ∀ call ∈ xs, clean n ∈ call.boundNames → call.touches mode k := by
      intro call hcall hname'
      obtain ⟨k', hk'⟩ := exists_touches_of_boundNames hname' mode
      by_contra hother
      have hne : k ≠ k' := by
        rintro rfl
        exact hother hk'
      exact hapart first hfirst call hcall k k' hk hk' hne (clean n) hname hname'
    rw [← history_writes_filter hsame, htouches k,
      history_writes_filter fun call hcall hname' => hsame call (hshared hcall hname') hname']
  · -- A name that no call binds is not bound in the other run either.
    have hnil : ∀ zs : List Call, (∀ call ∈ zs, clean n ∈ call.boundNames → call ∈ xs) →
        Params.history n (zs.flatMap Call.writes) = [] := by
      intro zs hzs
      refine Params.history_eq_nil fun hmem => ?_
      rw [List.flatMap_assoc, List.mem_flatMap] at hmem
      obtain ⟨call, hcall, hname⟩ := hmem
      exact hbound ⟨call, hzs call hcall hname, hname⟩
    rw [hnil xs fun _ h _ => h, hnil ys fun _ h => hshared h]

/-! ## Runs -/

/-- **The order of calls for different clauses does not matter.**  Two runs that keep the kind of
    statement, have the same calls for each clause in the same order, and both ask for an identity
    or both do not, make the same statement, or fail alike.  If no name is bound by calls for
    different clauses, all names have the same values too. -/
theorem render_run_eq_of_filter_touches (hxs : ∀ call ∈ xs, call.switchesTo? = none)
    (hys : ∀ call ∈ ys, call.switchesTo? = none)
    (htouches : ∀ k, xs.filter (Call.touches b.mode k) = ys.filter (Call.touches b.mode k))
    (hidentity : xs.any Call.asksIdentity = ys.any Call.asksIdentity) :
    (b.run xs).render = (b.run ys).render ∧
      (BindsApart b.mode xs → ∀ n, (b.run xs).params.get? n = (b.run ys).params.get? n) := by
  constructor
  · -- The text is told by the kind of statement, the identity and the clauses.
    refine render_congr ?_ ?_ (Clauses.ext fun k => ?_)
    · rw [mode_run_of_switchesTo? hxs, mode_run_of_switchesTo? hys]
    · rw [identity_run_of_switchesTo? hxs, identity_run_of_switchesTo? hys, hidentity]
    · rw [get_clauses_run_filter hxs rfl rfl, get_clauses_run_filter hys rfl rfl, htouches k]
  · intro hapart n
    rw [params_run, params_run]
    exact Params.get?_writeAll_congr b.params (history_writes_eq htouches hapart n)

/-- The assignments of an UPDATE and then its condition.  The upsert and the identity do nothing
    there. -/
def assignmentsFirst : List Call :=
  [.set "state" (.text "paid"), .duplicate "state" "'new'", .set "note" .null,
    .condition "id = @id" [.text "7"], .selectIdentity]

/-- The condition first, and in between a call that does nothing. -/
def conditionFirst : List Call :=
  [.selectIdentity, .condition "id = @id" [.text "7"], .set "state" (.text "paid"),
    .gated false (.set "id" .null), .set "note" .null]

/-- Both orders make the same UPDATE, with the same values. -/
theorem render_run_assignmentsFirst :
    let b := empty.apply (.update "orders")
    (∀ call ∈ assignmentsFirst, call.switchesTo? = none) ∧
      (∀ call ∈ conditionFirst, call.switchesTo? = none) ∧
      (∀ k, assignmentsFirst.filter (Call.touches b.mode k) =
        conditionFirst.filter (Call.touches b.mode k)) ∧
      assignmentsFirst.any Call.asksIdentity = conditionFirst.any Call.asksIdentity ∧
      BindsApart b.mode assignmentsFirst ∧
      (b.run conditionFirst).render =
        .ok "UPDATE orders SET `state`=@state,`note`=@note WHERE id = @id" ∧
      (b.run conditionFirst).params.get? "@id" = some (.text "7") := by
  intro b
  have hfirst : ∀ call ∈ assignmentsFirst, call.switchesTo? = none := by
    simp only [assignmentsFirst, List.forall_mem_cons, Call.switchesTo?, true_and]
    exact fun call h => absurd h List.not_mem_nil
  have hsecond : ∀ call ∈ conditionFirst, call.switchesTo? = none := by
    simp only [conditionFirst, List.forall_mem_cons, Call.switchesTo?, true_and]
    exact ⟨rfl, fun call h => absurd h List.not_mem_nil⟩
  have htouches : ∀ k, assignmentsFirst.filter (Call.touches b.mode k) =
      conditionFirst.filter (Call.touches b.mode k) := by
    intro k
    cases k <;> rfl
  have hapart : BindsApart b.mode assignmentsFirst := by
    refine bindsApart_of_target? ?_ b.mode
    decide +kernel
  obtain ⟨hrender, hget⟩ := render_run_eq_of_filter_touches hfirst hsecond htouches rfl
  refine ⟨hfirst, hsecond, htouches, rfl, hapart, ?_, ?_⟩
  · rw [← hrender]
    rfl
  · rw [← hget hapart "@id"]
    rfl

end SqlAssembly.Builder
