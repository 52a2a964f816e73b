import SqlAssembly.Proofs.CallEffects
import SqlAssembly.Proofs.Lookups

/-! # Violations spoil a statement and nothing else

A call that is refused changes nothing but the violation of the query, and of several violations
the first one stays.  Whether a call is refused can be told from the call itself and from whether
there is a request; what the builder has been asked for so far has no part in it.

* `Query.Call.violation?`          what is wrong with a call
* `Query.violation?_outcome`       a call is refused for just that
* `Query.firstViolation?`          the first violation of a run
* `Query.render_run_eq_firstViolation`   a refused call changes nothing else, and a statement is
                                   what the builder renders unless there was a violation -/

namespace SqlAssembly.Query

/-! ## What is wrong with a call -/

/-- A field lacks its name or its column. -/
def fieldViolation? (f : Field) (call : String) : Option Violation :=
  if f.name = "" ∨ f.column = "" then some (.emptyField call) else none

/-- There is no request to look into. -/
def bagViolation? (hasBag : Bool) (call : String) : Option Violation :=
  if hasBag then none else some (.noBag call)

/-- A condition is empty. -/
def conditionViolation? (text call : String) : Option Violation :=
  if text = "" then some (.emptyCondition call) else none

/-- An expression is empty. -/
def expressionViolation? (expr call : String) : Option Violation :=
  if expr = "" then some (.emptyExpression call) else none

/-- What is wrong with a call, where `hasBag` tells whether there is a request.  If several things
    are wrong, it is the one that is named first. -/
def Call.violation? (hasBag : Bool) : Call → Option Violation
  | .when f _ _ => (fieldViolation? f "when").or (bagViolation? hasBag "when")
  | .whenRaw _ expr _ =>
    (expressionViolation? expr "when_raw").or (bagViolation? hasBag "when_raw")
  | .between f _ => (fieldViolation? f "between").or (bagViolation? hasBag "between")
  | .betweenValues f _ _ => fieldViolation? f "between"
  | .set f _ => (fieldViolation? f "set").or (bagViolation? hasBag "set")
  | .setValue f _ | .setLiteral f _ => fieldViolation? f "set"
  | .value f _ | .valueLiteral f _ => fieldViolation? f "value"
  | .conditionOn f text _ => (fieldViolation? f "where").or (conditionViolation? text "where")
  | .joinOn _ f equals => (fieldViolation? f "join").or (fieldViolation? equals "join")
  | .joinIf _ f text => (fieldViolation? f "join").or (conditionViolation? text "join")
  | .orderByRequest => bagViolation? hasBag "order_by"
  | .orderBy f _ => fieldViolation? f "order_by"
  | .groupBy f => fieldViolation? f "group_by"
  | .selectAs f _ => fieldViolation? f "select"
  | .pageOfRequest .. => bagViolation? hasBag "page"
  | .gated isOpen call => if isOpen then call.violation? hasBag else none
  | _ => none

/-! ## Refusals -/

namespace Outcome

/-- The violation for which an outcome refuses. -/
def violation? : Outcome → Option Violation
  | refuse v => some v
  | _ => none

variable {q : Query} {f : Field} {call : String}

/-- A field is checked before the rest. -/
private theorem violation?_forField (next : Outcome) :
    (forField f call next).violation? = (fieldViolation? f call).or next.violation? := by
  -- The two ways to say that something of the field is missing agree.
  have hincomplete : f.isIncomplete = true ↔ f.name = "" ∨ f.column = "" := by
    rw [Field.isIncomplete, Bool.or_eq_true, decide_eq_true_iff, decide_eq_true_iff]
  by_cases h : f.name = "" ∨ f.column = ""
  · rw [forField, fieldViolation?, if_pos (hincomplete.2 h), if_pos h]
    rfl
  · rw [forField, fieldViolation?, if_neg (fun hi => h (hincomplete.1 hi)), if_neg h]
    rfl

/-- Where a request is all that is needed, the lack of it is the only violation. -/
private theorem violation?_forBag {next : Bag → Outcome} (h : ∀ bag, (next bag).violation? = none) :
    (forBag q call next).violation? = bagViolation? q.bag.isSome call := by
  unfold forBag
  cases q.bag with
  | none => rfl
  | some bag => exact h bag

/-- A value that the request lacks is no violation. -/
private theorem violation?_forSome {α : Type} {x : Option α} {next : α → Outcome}
    (h : ∀ a, (next a).violation? = none) : (forSome x next).violation? = none := by
  cases x with
  | none => rfl
  | some a => exact h a

end Outcome

variable (q : Query)

/-- An order that is no identifier is dropped, not refused. -/
private theorem violation?_requestedOrder (bag : Bag) : (requestedOrder bag).violation? = none := by
  rw [requestedOrder_eq, orderFor]
  -- There is an order, which is emitted or dropped, or there is none.
  split
  · split <;> rfl
  · rfl

/-- A call is refused for what is wrong with it, and for nothing else. -/
theorem violation?_outcome (call : Call) :
    (q.outcome call).violation? = call.violation? q.bag.isSome := by
  -- The checks of a call are peeled off in their order, and what is left refuses nothing.
  induction call with
  | when f accept operator =>
    exact (Outcome.violation?_forField _).trans <| congrArg (Option.or _) <|
      Outcome.violation?_forBag fun bag => Outcome.violation?_forSome fun x => rfl
  | whenRaw t expr param =>
    rw [Call.violation?, expressionViolation?, outcome]
    split
    · rfl
    · exact Outcome.violation?_forBag fun bag => Outcome.violation?_forSome fun x => rfl
  | between f accept =>
    rw [outcome_between]
    exact (Outcome.violation?_forField _).trans <| congrArg (Option.or _) <|
      Outcome.violation?_forBag fun bag => Outcome.violation?_forSome fun x => rfl
  | set f accept =>
    exact (Outcome.violation?_forField _).trans <| congrArg (Option.or _) <|
      Outcome.violation?_forBag fun bag => Outcome.violation?_forSome fun x => rfl
  | conditionOn f text args =>
    refine (Outcome.violation?_forField _).trans (congrArg (Option.or _) ?_)
    -- The text is checked behind the field.
    rw [conditionViolation?]
    split <;> rfl
  | joinIf kind f text =>
    refine (Outcome.violation?_forField _).trans (congrArg (Option.or _) ?_)
    rw [conditionViolation?]
    split <;> rfl
  | joinOn kind f equals =>
    refine (Outcome.violation?_forField _).trans (congrArg (Option.or _) ?_)
    exact (Outcome.violation?_forField _).trans Option.or_none
  | betweenValues f low high | setValue f v | setLiteral f expr | value f v
  | valueLiteral f expr | orderBy f direction | groupBy f | selectAs f aliasName =>
    exact (Outcome.violation?_forField _).trans Option.or_none
  | orderByRequest => exact Outcome.violation?_forBag violation?_requestedOrder
  | pageOfRequest countRows totals => exact Outcome.violation?_forBag fun bag => rfl
  | conditionIn f values =>
    show (if values.isEmpty then Outcome.skip else .emit _).violation? = none
    split <;> rfl
  | gated isOpen call ih =>
    show (if isOpen then _ else _ : Outcome).violation? = if isOpen then _ else none
    split
    · exact ih
    · rfl
  | _ => rfl

/-! ## Runs -/

/-- A refused call leaves everything but the violation as it is, and any other call changes the
    builder only. -/
theorem apply_eq_of_violation? (call : Call) :
    q.apply call =
      match call.violation? q.bag.isSome with
      | some v => q.refuse v
      | none => { q with builder := (q.apply call).builder } := by
  rw [← violation?_outcome, apply]
  -- Only a refusal carries a violation.
  cases q.outcome call with
  | emit | skip | dropOrder | refuse => rfl

/-- The first violation of a run: the one that there is already, else that of the first call with
    one. -/
def firstViolation? (calls : List Call) : Option Violation :=
  q.violation.or (calls.findSome? (Call.violation? q.bag.isSome))

/-- A call records its violation behind the one that there is. -/
theorem violation_apply (call : Call) :
    (q.apply call).violation = q.violation.or (call.violation? q.bag.isSome) := by
  rw [apply_eq_of_violation?]
  -- A violation that is there already is not replaced.
  cases call.violation? q.bag.isSome with
  | none => exact Option.or_none.symm
  | some v => rfl

/-- A run keeps its first violation. -/
theorem violation_run (calls : List Call) : (q.run calls).violation = q.firstViolation? calls := by
  induction calls generalizing q with
  | nil => exact Option.or_none.symm
  | cons call calls ih =>
    -- The request stays the same, so what is wrong with the later calls does too.
    have hstep : (q.run (call :: calls)).violation = (q.apply call).firstViolation? calls :=
      ih (q.apply call)
    rw [hstep, firstViolation?, violation_apply, bag_apply, firstViolation?, Option.or_assoc,
      List.findSome?_cons]
    cases call.violation? q.bag.isSome with
    | none => rw [Option.none_or]
    | some v => rw [Option.some_or]

/-- **Violations are atomic, and the first one stays**: a refused call leaves all but the violation
    as it is.  After any calls a statement is refused for the first violation, whatever the builder
    makes of it; without one, the statement is that of the builder. -/
theorem render_run_eq_firstViolation :
    (∀ call : Call,
      q.apply call =
        match call.violation? q.bag.isSome with
        | some v => { q with violation := q.violation.or (some v) }
        | none => { q with builder := (q.apply call).builder }) ∧
    ∀ calls : List Call,
      (q.run calls).render =
        (match q.firstViolation? calls with
        | some v => .error (.precondition (.violation v))
        | none => (q.run calls).builder.render.mapError .configuration) ∧
      (q.run calls).build =
        (match q.firstViolation? calls with
        | some v => .error (.precondition (.violation v))
        | none => (q.run calls).builder.build.mapError .configuration) := by
  refine ⟨q.apply_eq_of_violation?, fun calls => ?_⟩
  rw [render, build, violation_run]
  exact ⟨rfl, rfl⟩

end SqlAssembly.Query
