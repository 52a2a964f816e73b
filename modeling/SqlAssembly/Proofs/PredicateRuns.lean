import SqlAssembly.Proofs.ConditionalCalls
import SqlAssembly.Proofs.LastBinding

/-! # Runs of predicates

Comparisons and pairs of bounds change neither the kind of statement nor the request, so each comes
down to the same wherever it stands among others.  A run of them binds the parameters of one after
those of the other.

* `Query.Call.IsPredicate`           predicates on columns that are words, with scalar values
* `Query.arguments`, `Query.bindings`   what a predicate binds
* `Query.exists_condition_of_outcome`   what a predicate is, if it is emitted
* `Query.isAlike_run`                the others do not matter for a predicate
* `Query.params_run`                 the parameters behind a run -/

namespace SqlAssembly

open Placeholder

namespace Query

variable {q q' : Query} {call : Call} {calls : List Call}

/-! ## Predicates -/

/-- The field that a call compares. -/
def Call.comparedField? : Call → Option Field
  | .when f _ _ => some f
  | _ => none

/-- The field that a call puts between bounds. -/
def Call.boundedField? : Call → Option Field
  | .between f _ | .betweenValues f _ _ => some f
  | _ => none

/-- The field that a predicate is about. -/
def Call.field? (call : Call) : Option Field := call.comparedField?.or call.boundedField?

/-- The column that a predicate is about. -/
def Call.column? (call : Call) : Option String := call.field?.map Field.column

/-- Whether a call is a predicate on a column that is a word, and its values are scalars. -/
def Call.IsPredicate : Call → Prop
  | .when f _ _ | .between f _ => Text.isWordText f.column = true ∧ f.type.isScalar = true
  | .betweenValues f low high =>
    Text.isWordText f.column = true ∧ low.isObject = false ∧ high.isObject = false
  | _ => False

/-- The placeholders that a predicate makes of its column. -/
def Call.placeholders : Call → List String
  | .when f _ _ => ["@" ++ f.column]
  | .between f _ | .betweenValues f _ _ => ["@" ++ (f.column ++ "1"), "@" ++ (f.column ++ "2")]
  | _ => []

/-- The values that a predicate binds, none if it is not emitted. -/
def arguments (q : Query) (call : Call) : List Value :=
  match q.outcome call with
  | .emit (.condition _ args) => args
  | _ => []

/-- The placeholders that a predicate makes of its column with the values it binds. -/
def bindings (q : Query) (call : Call) : List (String × Value) :=
  call.placeholders.zip (q.arguments call)

/-- Whether the column of a predicate as it stands has no placeholder of its own, if the predicate
    is emitted. -/
def IsClear (q : Query) (call : Call) : Prop :=
  ∀ f, call.field? = some f → q.arguments call ≠ [] → tokens (q.fieldSql f) = []

theorem arguments_eq {text : String} {args : List Value}
    (h : q.outcome call = .emit (.condition text args)) : q.arguments call = args := by
  rw [arguments, h]

theorem placeholders_ne_nil (hcall : call.IsPredicate) : call.placeholders ≠ [] := by
  cases call with
  | when | between | betweenValues => exact List.cons_ne_nil _ _
  | _ => exact hcall.elim

/-- A predicate that is emitted is a condition whose placeholders are those of the column as it
    stands and then the predicate's own, and it has a value for each of the latter. -/
theorem exists_condition_of_outcome (hcall : call.IsPredicate) {emitted : Builder.Call}
    (h : q.outcome call = .emit emitted) :
    ∃ f text args, call.field? = some f ∧ emitted = .condition text args ∧
      tokens text = tokens (q.fieldSql f) ++ call.placeholders ∧
      args.length = call.placeholders.length ∧ ∀ a ∈ args, a.isObject = false := by
  -- Bounds go through their textual form, which keeps a scalar a scalar.
  have hbounds : ∀ {low high : Value}, low.isObject = false → high.isObject = false →
      ∀ a ∈ [low.roundTrip, high.roundTrip], a.isObject = false := by
    intro low high hlow hhigh
    simp only [List.forall_mem_cons, isObject_roundTrip]
    exact ⟨hlow, hhigh, fun a ha => absurd ha List.not_mem_nil⟩
  cases call with
  | when f accept operator =>
    obtain ⟨bag, x, -, -, rfl⟩ := exists_of_outcome_when h
    refine ⟨f, _, _, rfl, rfl, tokens_compare_eq _ hcall.1 _, rfl, fun a ha => ?_⟩
    rw [List.mem_singleton.1 ha, isObject_operand]
    exact FieldType.isObject_embed_of_isScalar hcall.2 x
  | between f accept =>
    obtain ⟨bag, low, high, -, -, rfl⟩ := exists_of_outcome_between h
    exact ⟨f, _, _, rfl, rfl, tokens_boundsText_eq q hcall.1, rfl,
      hbounds (FieldType.isObject_embed_of_isScalar hcall.2 low)
        (FieldType.isObject_embed_of_isScalar hcall.2 high)⟩
  | betweenValues f low high =>
    obtain rfl := Outcome.emit.inj (Outcome.eq_emit_of_forField h)
    exact ⟨f, _, _, rfl, rfl, tokens_boundsText_eq q hcall.1, rfl, hbounds hcall.2.1 hcall.2.2⟩
  | _ => exact hcall.elim

/-! ## Runs of predicates -/

/-- Whether two queries build the same kind of statement for the same request, so that predicates
    come down to the same. -/
def IsAlike (q q' : Query) : Prop := q'.builder.mode = q.builder.mode ∧ q'.bag = q.bag

theorem IsAlike.refl (q : Query) : q.IsAlike q := ⟨rfl, rfl⟩

theorem IsAlike.outcome_eq (h : q.IsAlike q') (hcall : call.IsPredicate) :
    q'.outcome call = q.outcome call := by
  -- A predicate looks at the kind of statement for its column and at the request for the rest.
  have hsql : ∀ f, q'.fieldSql f = q.fieldSql f := fun f => by rw [fieldSql, fieldSql, h.1]
  have hoperator : ∀ column, q'.requestedOperator column = q.requestedOperator column :=
    fun column => by rw [requestedOperator, requestedOperator, h.2]
  cases call with
  | when f accept operator => simp only [outcome, Outcome.forBag, h.2, hsql, hoperator]
  | between f accept => simp only [outcome, Outcome.forBag, h.2, betweenBounds, hsql]
  | betweenValues f low high => simp only [outcome, betweenBounds, hsql]
  | _ => exact hcall.elim

/-- A predicate changes neither the kind of statement nor the request. -/
private theorem isAlike_apply (hcall : call.IsPredicate) : q.IsAlike (q.apply call) := by
  refine ⟨?_, q.bag_apply call⟩
  rw [apply]
  cases houtcome : q.outcome call with
  | emit emitted =>
    -- A condition is added to the clauses only.
    obtain ⟨f, text, args, -, rfl, -⟩ := exists_condition_of_outcome hcall houtcome
    rfl
  | skip | dropOrder | refuse => rfl

theorem IsAlike.trans {q'' : Query} (h : q.IsAlike q') (h' : q'.IsAlike q'') : q.IsAlike q'' :=
  ⟨h'.1.trans h.1, h'.2.trans h.2⟩

theorem isAlike_run (hcalls : ∀ call ∈ calls, call.IsPredicate) : q.IsAlike (q.run calls) := by
  induction calls generalizing q with
  | nil => exact .refl q
  | cons call calls ih =>
    exact (isAlike_apply (hcalls call List.mem_cons_self)).trans
      (ih fun c hc => hcalls c (List.mem_cons_of_mem call hc))

theorem IsAlike.arguments_eq (h : q.IsAlike q') (hcall : call.IsPredicate) :
    q'.arguments call = q.arguments call := by
  rw [arguments, arguments, h.outcome_eq hcall]

private theorem IsAlike.isClear (h : q.IsAlike q') (hcall : call.IsPredicate)
    (hclear : q.IsClear call) : q'.IsClear call := by
  intro f hfield hargs
  rw [h.arguments_eq hcall] at hargs
  rw [fieldSql, h.1]
  exact hclear f hfield hargs

/-- A predicate whose column has no placeholder of its own binds its placeholders. -/
theorem params_apply (hcall : call.IsPredicate) (hclear : q.IsClear call) :
    (q.apply call).builder.params = q.builder.params.addAll (q.bindings call) := by
  cases houtcome : q.outcome call with
  | emit emitted =>
    obtain ⟨f, text, args, hfield, rfl, htokens, hlength, hobjects⟩ :=
      exists_condition_of_outcome hcall houtcome
    have hargs : q.arguments call = args := Query.arguments_eq houtcome
    -- There is a value for each placeholder, so the two lists are what is zipped.
    have hne : args ≠ [] := by
      rw [← List.length_pos_iff, hlength, List.length_pos_iff]
      exact placeholders_ne_nil hcall
    have hfst : (q.bindings call).map (·.1) = call.placeholders := by
      rw [bindings, hargs]
      exact List.map_fst_zip (Nat.le_of_eq hlength.symm)
    have hsnd : (q.bindings call).map (·.2) = args := by
      rw [bindings, hargs]
      exact List.map_snd_zip (Nat.le_of_eq hlength)
    rw [hclear f hfield (hargs ▸ hne), List.nil_append, ← hfst] at htokens
    -- The condition binds something, as an extension has to.
    have hbindings : q.bindings call ≠ [] := by
      intro h
      rw [h] at hfst
      exact placeholders_ne_nil hcall hfst.symm
    rw [builder_apply_of_emit houtcome, ← hsnd,
      Builder.apply_condition_eq_extend htokens hbindings (hsnd ▸ hobjects), Builder.extend]
  | skip | dropOrder | refuse =>
    -- A predicate that is not emitted has no values to zip with.
    have hnone : q.bindings call = [] := by
      rw [bindings, arguments, houtcome]
      exact List.zip_nil_right
    rw [apply, houtcome, hnone]
    rfl

/-- Predicates bind their placeholders one after the other. -/
theorem params_run (hcalls : ∀ call ∈ calls, call.IsPredicate)
    (hclear : ∀ call ∈ calls, q.IsClear call) :
    (q.run calls).builder.params = q.builder.params.addAll (calls.flatMap q.bindings) := by
  induction calls generalizing q with
  | nil => rfl
  | cons call calls ih =>
    have hcall := hcalls call List.mem_cons_self
    have hrest : ∀ c ∈ calls, c.IsPredicate := fun c hc => hcalls c (List.mem_cons_of_mem call hc)
    have halike : q.IsAlike (q.apply call) := isAlike_apply hcall
    -- Behind the first predicate the others still bind what they bind in front of it.
    have hbindings : calls.flatMap (q.apply call).bindings = calls.flatMap q.bindings :=
      List.flatMap_congr fun c hc => by
        rw [bindings, bindings, halike.arguments_eq (hrest c hc)]
    rw [run_cons, ih hrest fun c hc =>
        halike.isClear (hrest c hc) (hclear c (List.mem_cons_of_mem call hc)),
      hbindings, params_apply hcall (hclear call List.mem_cons_self), List.flatMap_cons,
      Params.addAll, Params.addAll, Params.addAll, List.foldl_append]

end Query

end SqlAssembly
