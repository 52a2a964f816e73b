import SqlAssembly.Query.Basic

/-! # The effects of single calls

For a builder there is one equation for the first call of a run, and one for each call that does not
always do the same, so that other proofs need not unfold `Builder.apply`.  The other calls come down
to one of `addTable`, `addFragment`, `addTexts`, `replaceFragment` and `addCondition` by definition.
A query changes its builder and its violation only, and brings columns into the statement by
`Query.columnSql`. -/

namespace SqlAssembly

namespace Builder

variable (b : Builder)

theorem run_cons (call : Call) (calls : List Call) :
    b.run (call :: calls) = (b.apply call).run calls := (rfl)

theorem apply_duplicate (field expr : String) :
    b.apply (.duplicate field expr) =
      if b.mode = .insert ∧ field ≠ "" ∧ expr ≠ "" then
        b.addFragment .duplicateUpdate (.duplicate field expr)
      else b := (rfl)

theorem apply_selectIdentity :
    b.apply .selectIdentity = if b.mode = .insert then { b with identity := true } else b := (rfl)

/-- The assignment of a parameter to the column of its name. -/
def assignment (name : String) : String := "`" ++ name ++ "`=@" ++ name

/-- An assignment from whose field no name can be derived is dropped. -/
theorem apply_set (field : String) (value : Value) :
    b.apply (.set field value) =
      match parameterName? field with
      | some name => (b.addFragment .updateValue (.text (assignment name))).bind name value
      | none => b := (rfl)

theorem apply_conditionIn (field : String) (values : List Value) :
    b.apply (.conditionIn field values) =
      if values.isEmpty then b.addCondition neverCondition []
      else b.addCondition (listCondition field values.length) values := (rfl)

theorem apply_gated (isOpen : Bool) (call : Call) :
    b.apply (.gated isOpen call) = if isOpen then b.apply call else b := (rfl)

end Builder

namespace Query

/-! ## Outcomes that emit -/

namespace Outcome

variable {q : Query} {f : Field} {name : String} {call : Builder.Call}

/-- A call that is emitted behind a check of a field is what the next step emits. -/
theorem eq_emit_of_forField {next : Outcome} (h : forField f name next = .emit call) :
    next = .emit call := by
  rw [forField] at h
  split at h
  · exact nomatch h
  · exact h

/-- A call that needs a request is emitted only if there is one. -/
theorem exists_bag_of_forBag {next : Bag → Outcome} (h : forBag q name next = .emit call) :
    ∃ bag, q.bag = some bag ∧ next bag = .emit call := by
  rw [forBag] at h
  split at h
  · rename_i bag hbag
    exact ⟨bag, hbag, h⟩
  · exact nomatch h

/-- A call that needs a value is emitted only if there is one. -/
theorem exists_of_forSome {α : Type} {x : Option α} {next : α → Outcome}
    (h : forSome x next = .emit call) : ∃ a, x = some a ∧ next a = .emit call := by
  cases x with
  | none => exact nomatch h
  | some a => exact ⟨a, rfl, h⟩

end Outcome

/-! ## Queries -/

variable {q : Query}

/-- A call that is emitted is carried out by the builder. -/
theorem builder_apply_of_emit {call : Call} {emitted : Builder.Call}
    (h : q.outcome call = .emit emitted) : (q.apply call).builder = q.builder.apply emitted := by
  rw [apply, h, accept]

variable (q)

theorem run_cons (call : Call) (calls : List Call) :
    q.run (call :: calls) = (q.apply call).run calls := (rfl)

theorem model_apply (call : Call) : (q.apply call).model = q.model := by
  rw [apply]
  cases q.outcome call with
  | emit | skip | dropOrder | refuse => rfl

/-- A call does not exchange the request. -/
theorem bag_apply (call : Call) : (q.apply call).bag = q.bag := by
  rw [apply]
  cases q.outcome call with
  | emit | skip | dropOrder | refuse => rfl

/-- A column as it stands in a statement has no other characters than its own, those of its alias,
    a dot and backticks. -/
theorem not_mem_columnSql {mode : Mode} {aliasName : Option String} {column : String} {c : Char}
    (hdot : c ≠ '.') (htick : c ≠ Char.ofNat 0x60) (hcolumn : c ∉ column.toList)
    (halias : ∀ a ∈ aliasName, c ∉ a.toList) : c ∉ (columnSql mode aliasName column).toList := by
  have hticks : c ∉ "`".toList := fun h => htick (List.mem_singleton.1 h)
  have hdots : c ∉ ".".toList := fun h => hdot (List.mem_singleton.1 h)
  unfold columnSql
  split
  · exact hcolumn
  · exact hcolumn
  · rename_i a _
    have ha := halias a rfl
    split
    · -- the alias in front of a column that is read
      simp only [String.toList_append, List.mem_append, not_or]
      exact ⟨⟨ha, hdots⟩, hcolumn⟩
    · -- backticks around a column that is written
      simp only [String.toList_append, List.mem_append, not_or]
      exact ⟨⟨hticks, hcolumn⟩, hticks⟩

end Query

end SqlAssembly
