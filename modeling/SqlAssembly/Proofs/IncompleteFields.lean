import SqlAssembly.Proofs.AddedFragments
import SqlAssembly.Proofs.Violations

/-! # Fields without a name or a column

A call on a field that lacks its name or its column has nothing to put into a statement, so it is
to be rejected: the statement stays as it is and is never rendered.  Each call looks at its fields
on its own, and three kinds of calls do not look at all: the upsert of a column, the list condition
and the list of selected fields.  These carry on and bring the missing text into the statement.

* `Query.Call.fields`         the fields that a call is given
* `Query.Call.checksFields`   whether the call looks at them
* `Query.IsRejected`          what becomes of a call that is rejected
* `Query.isRejected_iff_checksFields`   a call on an incomplete field is rejected exactly if it
                              looks at its fields, and else adds its fragments all the same -/

namespace SqlAssembly

theorem Field.isIncomplete_iff {f : Field} :
    f.isIncomplete = true ↔ f.name = "" ∨ f.column = "" := by
  simp [Field.isIncomplete]

namespace Query

/-! ## Calls on fields -/

/-- The fields that a call is given. -/
def Call.fields : Call → List Field
  | .when f _ _ | .between f _ | .betweenValues f _ _ | .set f _ | .setValue f _
  | .setLiteral f _ | .value f _ | .valueLiteral f _ | .duplicate f _ | .conditionOn f _ _
  | .conditionIn f _ | .joinIf _ f _ | .orderBy f _ | .groupBy f | .selectAs f _ => [f]
  | .joinOn _ f equals => [f, equals]
  | .selectFields fields => fields
  | .gated isOpen call => if isOpen then call.fields else []
  | _ => []

/-- Whether a call looks at the fields that it is given. -/
def Call.checksFields : Call → Bool
  | .duplicate .. | .conditionIn .. | .selectFields _ => false
  | .gated _ call => call.checksFields
  | _ => true

/-- The fragments that a call adds without a look at its fields, each with its clause. -/
def uncheckedFragments (q : Query) : Call → List (Clause × Fragment)
  | .duplicate f expr =>
    if q.builder.mode = .insert ∧ f.column ≠ "" ∧ expr ≠ "" then
      [(.duplicateUpdate, .duplicate f.column expr)]
    else []
  | .conditionIn f values =>
    let column := if q.builder.mode = .select then q.fieldSql f else f.column
    if values.isEmpty then []
    else [(.condition, .text (Builder.listCondition column values.length))]
  | .selectFields fields => fields.map fun f => (.select, .text f.qualified)
  | .gated isOpen call => if isOpen then q.uncheckedFragments call else []
  | _ => []

/-- A call is rejected: clauses and parameters stay as they are, and whatever calls come after it,
    neither a text nor a statement is had, for a violation. -/
structure IsRejected (q : Query) (call : Call) : Prop where
  clauses : (q.apply call).builder.clauses = q.builder.clauses
  params : (q.apply call).builder.params = q.builder.params
  render : ∀ calls, ∃ v, ((q.apply call).run calls).render = .error (.precondition (.violation v))
  build : ∀ calls, ∃ v, ((q.apply call).run calls).build = .error (.precondition (.violation v))

/-! ## Violations -/

/-- A call that looks at its fields has something wrong with it if one of them is incomplete. -/
private theorem violation?_isSome_of_checksFields {call : Call} (hcheck : call.checksFields = true)
    {f : Field} (hf : f ∈ call.fields) (hincomplete : f.isIncomplete = true) (hasBag : Bool) :
    (call.violation? hasBag).isSome = true := by
  have hfield : ∀ name, (fieldViolation? f name).isSome = true := fun name => by
    rw [fieldViolation?, if_pos (Field.isIncomplete_iff.1 hincomplete)]
    rfl
  -- What is looked at behind the field does not matter any more.
  have hfirst : ∀ name (v : Option Violation), ((fieldViolation? f name).or v).isSome = true :=
    fun name v => by rw [Option.isSome_or, hfield name, Bool.true_or]
  induction call with
  | when g _ _ | between g _ | set g _ | conditionOn g _ _ | joinIf _ g _ =>
    obtain rfl := List.mem_singleton.1 hf
    exact hfirst _ _
  | betweenValues g _ _ | setValue g _ | setLiteral g _ | value g _ | valueLiteral g _
  | orderBy g _ | groupBy g | selectAs g _ =>
    obtain rfl := List.mem_singleton.1 hf
    exact hfield _
  | joinOn kind g equals =>
    -- The second field is looked at only if the first one is complete.
    rcases List.mem_cons.1 hf with rfl | hf
    · exact hfirst _ _
    · obtain rfl := List.mem_singleton.1 hf
      show ((fieldViolation? g "join").or (fieldViolation? f "join")).isSome = true
      rw [Option.isSome_or, hfield, Bool.or_true]
  | gated isOpen call ih =>
    cases isOpen with
    | true => exact ih hcheck hf
    | false => exact absurd hf List.not_mem_nil
  | duplicate | conditionIn | selectFields => exact absurd hcheck Bool.false_ne_true
  | _ => exact absurd hf List.not_mem_nil

/-- Nothing is ever wrong with a call that does not look at its fields. -/
private theorem violation?_of_not_checksFields {call : Call} (hcheck : call.checksFields = false)
    (hasBag : Bool) : call.violation? hasBag = none := by
  induction call with
  | duplicate | conditionIn | selectFields => rfl
  | gated isOpen call ih =>
    cases isOpen with
    | true => exact ih hcheck
    | false => rfl
  | _ => exact absurd hcheck Bool.noConfusion

/-! ## Rejected calls -/

variable {q : Query} {call : Call}

/-- A call with something wrong with it is rejected. -/
private theorem isRejected_of_violation? (h : (call.violation? q.bag.isSome).isSome = true) :
    q.IsRejected call := by
  obtain ⟨v, hv⟩ := Option.isSome_iff_exists.1 h
  have hstep : q.apply call = q.refuse v := by rw [apply_eq_of_violation?, hv]
  -- A violation stays through all later calls.
  have hrun : ∀ calls, ∃ w, ((q.apply call).run calls).violation = some w := fun calls => by
    have hnow : (q.apply call).violation.isSome = true := by
      rw [violation_apply, hv, Option.isSome_or, Option.isSome_some, Bool.or_true]
    obtain ⟨w, hw⟩ := Option.isSome_iff_exists.1 hnow
    exact ⟨w, by rw [violation_run, firstViolation?, hw, Option.some_or]⟩
  -- A refused call records the violation and touches nothing else.
  refine ⟨by rw [hstep, refuse], by rw [hstep, refuse], fun calls => ?_, fun calls => ?_⟩
  · obtain ⟨w, hw⟩ := hrun calls
    exact ⟨w, by rw [Query.render, hw]⟩
  · obtain ⟨w, hw⟩ := hrun calls
    exact ⟨w, by rw [Query.build, hw]⟩

/-- Right behind a call that is rejected there is a violation. -/
private theorem IsRejected.violation_ne_none (h : q.IsRejected call) :
    (q.apply call).violation ≠ none := by
  intro hnone
  obtain ⟨v, hv⟩ := h.render []
  have hrender : (q.apply call).render = .error (.precondition (.violation v)) := hv
  rw [Query.render, hnone] at hrender
  -- The builder has errors of its own only.
  cases hb : (q.apply call).builder.render with
  | ok sql =>
    rw [hb] at hrender
    cases hrender
  | error e =>
    rw [hb] at hrender
    cases hrender

/-- A call that does not look at its fields adds its fragments to the others. -/
private theorem get_clauses_apply_of_not_checksFields (q : Query)
    (hcheck : call.checksFields = false) (k : Clause) :
    (q.apply call).builder.clauses.get k =
      q.builder.clauses.get k ++ k.pick (q.uncheckedFragments call) := by
  induction call with
  | duplicate f expr => exact q.builder.get_clauses_apply k (.duplicate f.column expr)
  | conditionIn f values =>
    -- A condition on no values is dropped before it comes to the field.
    cases values with
    | nil => exact (List.append_nil _).symm
    | cons v vs =>
      exact q.builder.get_clauses_apply k (.conditionIn
        (if q.builder.mode = .select then q.fieldSql f else f.column) (v :: vs))
  | selectFields fields =>
    -- The columns are added as they are, each behind its qualifier.
    have hadded : q.uncheckedFragments (.selectFields fields) =
        Builder.Call.added q.builder.mode (.select (fields.map Field.qualified)) := by
      rw [uncheckedFragments, Builder.Call.added, List.map_map]
      rfl
    rw [hadded]
    exact q.builder.get_clauses_apply k (.select (fields.map Field.qualified))
  | gated isOpen call ih =>
    cases isOpen with
    | true => exact ih hcheck
    | false => exact (List.append_nil _).symm
  | _ => exact absurd hcheck Bool.noConfusion

/-- **Incomplete fields are rejected by the calls that look at them.**  A call on a field without a
    name or without a column is rejected exactly if it is a call that looks at its fields.  Any
    other call records nothing and adds its fragments, with the missing text in them. -/
theorem isRejected_iff_checksFields (q : Query) (call : Call) (hq : q.violation = none)
    (hf : ∃ f ∈ call.fields, f.name = "" ∨ f.column = "") :
    (q.IsRejected call ↔ call.checksFields = true) ∧
      (call.checksFields = false →
        (q.apply call).violation = none ∧
          ∀ k, (q.apply call).builder.clauses.get k =
            q.builder.clauses.get k ++ k.pick (q.uncheckedFragments call)) := by
  obtain ⟨f, hmem, hincomplete⟩ := hf
  -- The query had no violation, and the call brings none.
  have hunchecked : call.checksFields = false → (q.apply call).violation = none := fun hcheck => by
    rw [violation_apply, hq, violation?_of_not_checksFields hcheck, Option.none_or]
  refine ⟨⟨fun hrejected => ?_, fun hcheck => ?_⟩, fun hcheck => ⟨hunchecked hcheck, ?_⟩⟩
  · cases hcheck : call.checksFields with
    | true => rfl
    | false => exact absurd (hunchecked hcheck) hrejected.violation_ne_none
  · exact isRejected_of_violation? (violation?_isSome_of_checksFields hcheck hmem
      (Field.isIncomplete_iff.2 hincomplete) _)
  · exact q.get_clauses_apply_of_not_checksFields hcheck

/-! ## A list condition on nothing -/

/-- A field that lacks its name and its column. -/
def namelessField : Field := .new ⟨"orders"⟩ "" "" (.int .int32)

/-- A query for an empty request. -/
def emptyRequest : Query := (ofBag namelessField.model .empty).apply (.table "")

/-- A list condition on the field is not rejected, and the statement lacks the column; a
    condition of another kind on it is rejected. -/
theorem isRejected_iff_checksFields_nameless :
    ¬ emptyRequest.IsRejected (.conditionIn namelessField [.int16 ⟨1, by decide, by decide⟩]) ∧
      (emptyRequest.apply
          (.conditionIn namelessField [.int16 ⟨1, by decide, by decide⟩])).render.toOption =
        some "SELECT * FROM orders WHERE  IN (@_IN_0)" ∧
      emptyRequest.IsRejected (.conditionOn namelessField "> 1" []) := by
  have hlist := isRejected_iff_checksFields emptyRequest
    (.conditionIn namelessField [.int16 ⟨1, by decide, by decide⟩]) rfl
    ⟨namelessField, List.mem_singleton_self _, .inl rfl⟩
  have hplain := isRejected_iff_checksFields emptyRequest (.conditionOn namelessField "> 1" []) rfl
    ⟨namelessField, List.mem_singleton_self _, .inl rfl⟩
  refine ⟨fun h => Bool.false_ne_true (hlist.1.1 h), by decide +kernel, hplain.1.2 rfl⟩

end Query

end SqlAssembly
