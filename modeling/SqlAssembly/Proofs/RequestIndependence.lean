import SqlAssembly.Proofs.CallEffects
import SqlAssembly.Proofs.Lookups
import SqlAssembly.Proofs.StatementText

/-! # A request reaches a statement through its parameters only

Two runs of the same calls with different requests are compared.  The requests *agree* on a call if
the call finds a usable value in both or in neither, and the same operator, order and page in both.
Runs on whose calls the requests agree never differ in anything but the values that are bound.

* `Query.Call.Agrees`                what two requests have in common for a call
* `Builder.SameText.apply`           builders go on alike, whatever the values
* `Query.SameText.outcome`           a call comes down to the same, up to the values
* `Query.SameText.run`               so do calls one after the other
* `Query.render_run_eq_of_agrees`    the text, or the error, is the same -/

namespace SqlAssembly

/-! ## Builders -/

namespace Builder

/-- Calls that differ in the values of a condition or an assignment only. -/
inductive Call.SameText : Call → Call → Prop
  | refl (call : Call) : SameText call call
  | condition (text : String) (args args' : List Value) :
    SameText (.condition text args) (.condition text args')
  | set (field : String) (value value' : Value) :
    SameText (.set field value) (.set field value')

/-- Builders that differ in what is bound to parameters only. -/
structure SameText (b c : Builder) : Prop where
  mode : b.mode = c.mode
  identity : b.identity = c.identity
  clauses : b.clauses = c.clauses
  config : b.config = c.config

namespace SameText

variable {b c : Builder}

theorem refl (b : Builder) : b.SameText b := ⟨rfl, rfl, rfl, rfl⟩

/-- Binding parameters makes no difference. -/
theorem bind (h : b.SameText c) (name name' : String) (value value' : Value) :
    (b.bind name value).SameText (c.bind name' value') :=
  ⟨h.mode, h.identity, h.clauses, h.config⟩

/-- The same change of the clauses makes no difference. -/
private theorem setClauses (h : b.SameText c) (f : Clauses → Clauses) :
    SameText { b with clauses := f b.clauses } { c with clauses := f c.clauses } :=
  ⟨h.mode, h.identity, congrArg f h.clauses, h.config⟩

theorem addFragment (h : b.SameText c) (clause : Clause) (f : Fragment) :
    (b.addFragment clause f).SameText (c.addFragment clause f) := h.setClauses (·.add clause f)

theorem addTexts (h : b.SameText c) (clause : Clause) (texts : List String) :
    (b.addTexts clause texts).SameText (c.addTexts clause texts) :=
  h.setClauses (·.addAll clause (texts.map .text))

theorem replaceFragment (h : b.SameText c) (clause : Clause) (f : Fragment) :
    (b.replaceFragment clause f).SameText (c.replaceFragment clause f) :=
  h.setClauses (·.replace clause f)

private theorem setMode (h : b.SameText c) (mode : Mode) :
    SameText { b with mode } { c with mode } :=
  ⟨rfl, h.identity, h.clauses, h.config⟩

/-- A condition adds its text, whatever its arguments are. -/
theorem addCondition (h : b.SameText c) (text : String) (args args' : List Value) :
    (b.addCondition text args).SameText (c.addCondition text args') :=
  ⟨h.mode, h.identity, congrArg (·.add .condition (.text text)) h.clauses, h.config⟩

/-- The same call makes no difference. -/
theorem apply_same (h : b.SameText c) (call : Call) : (b.apply call).SameText (c.apply call) := by
  induction call with
  | configure config => exact ⟨h.mode, h.identity, h.clauses, rfl⟩
  | table name => exact h.addFragment _ _
  | tableAs name aliasName => exact h.addFragment _ _
  | insert table => exact (h.setMode .insert).addFragment _ _
  | update table => exact (h.setMode .update).addFragment _ _
  | delete table => exact (h.setMode .delete).addFragment _ _
  | value field value => exact (h.addFragment _ _).bind _ _ _ _
  | valueLiteral field expr => exact h.addFragment _ _
  | duplicate field expr =>
    rw [apply_duplicate, apply_duplicate, h.mode]
    -- Both builders build the same kind of statement, so they take the same branch.
    split
    · exact h.addFragment _ _
    · exact h
  | selectIdentity =>
    rw [apply_selectIdentity, apply_selectIdentity, h.mode]
    split
    · exact ⟨rfl, rfl, h.clauses, h.config⟩
    · exact h
  | set field value =>
    rw [apply_set, apply_set]
    -- The name of the parameter comes from the field alone.
    cases parameterName? field with
    | some name => exact (h.addFragment _ _).bind _ _ _ _
    | none => exact h
  | setLiteral field expr => exact h.addFragment _ _
  | condition text args => exact h.addCondition _ _ _
  | conditionIn field values =>
    -- The text of the condition needs the number of values only, which is the same for both.
    rw [apply_conditionIn, apply_conditionIn]
    split
    · exact h.addCondition _ _ _
    · exact h.addCondition _ _ _
  | join kind table aliasName on => exact h.addFragment _ _
  | select fields => exact h.addTexts _ _
  | clearSelect => exact h.setClauses (·.set .select [])
  | groupBy fields => exact h.addTexts _ _
  | orderBy field direction => exact h.addFragment _ _
  | limit offset rows => exact h.replaceFragment _ _
  | forUpdate => exact h.replaceFragment _ _
  | page index size countRows totals => exact h.replaceFragment _ _
  | gated isOpen call ih =>
    rw [apply_gated, apply_gated]
    split
    · exact ih
    · exact h

/-- Calls with the same text make no difference. -/
theorem apply (h : b.SameText c) {call call' : Call} (hcall : call.SameText call') :
    (b.apply call).SameText (c.apply call') := by
  cases hcall with
  | refl => exact h.apply_same call
  | condition text args args' => exact h.addCondition text args args'
  | set field value value' =>
    rw [apply_set, apply_set]
    cases parameterName? field with
    | some name => exact (h.addFragment _ _).bind _ _ _ _
    | none => exact h

/-- The text does not depend on the values. -/
theorem render_eq (h : b.SameText c) : b.render = c.render :=
  render_congr h.mode h.identity h.clauses

end SameText

end Builder

/-! ## Requests that agree -/

namespace Query

variable {bag₁ bag₂ : Bag} {q q' : Query}

/-- Whether both requests choose the same operator for a column. -/
def AgreeOnOperator (bag₁ bag₂ : Bag) (column : String) : Prop :=
  bag₁.get .comparison (Comparison.keyFor column) .equal =
    bag₂.get .comparison (Comparison.keyFor column) .equal

/-- Whether a look-up finds a usable value in both requests or in neither. -/
def AgreeOnPresence (bag₁ bag₂ : Bag) (t : FieldType) (key : String)
    (accept : Option (t.Carrier → Bool)) : Prop :=
  (lookup? bag₁ t key accept).isSome = (lookup? bag₂ t key accept).isSome

/-- What two requests have in common for a call: the presence of a usable value, the operator that
    is chosen, the order and the page, where the call asks for them.  A value may differ. -/
def Call.Agrees (bag₁ bag₂ : Bag) : Call → Prop
  | .when f accept operator =>
    AgreeOnPresence bag₁ bag₂ f.type f.name accept ∧
      (operator = none → AgreeOnOperator bag₁ bag₂ f.column)
  | .whenRaw t expr param =>
    let name := if param = "" then Placeholder.cleanLast expr else param
    AgreeOnPresence bag₁ bag₂ t name none ∧ AgreeOnOperator bag₁ bag₂ name
  | .between f accept => (bounds? bag₁ f accept).isSome = (bounds? bag₂ f accept).isSome
  | .set f accept => AgreeOnPresence bag₁ bag₂ f.type f.name accept
  | .orderByRequest =>
    bag₁.orderText = bag₂.orderText ∧ bag₁.orderFlag = bag₂.orderFlag
  | .pageOfRequest .. =>
    bag₁.fetch? (.int .int32) Bag.pageIndexKey = bag₂.fetch? (.int .int32) Bag.pageIndexKey ∧
      bag₁.fetch? (.int .int32) Bag.pageSizeKey = bag₂.fetch? (.int .int32) Bag.pageSizeKey
  | .gated isOpen call => isOpen = true → call.Agrees bag₁ bag₂
  | _ => True

/-! ## Outcomes -/

namespace Outcome

/-- Whether an outcome leaves the query as it is. -/
def IsIdle : Outcome → Prop
  | skip | dropOrder .. => True
  | _ => False

/-- Outcomes that differ in the values of a condition or an assignment only. -/
inductive SameText : Outcome → Outcome → Prop
  | emit {call call' : Builder.Call} (h : call.SameText call') : SameText (emit call) (emit call')
  | idle {o o' : Outcome} (h : o.IsIdle) (h' : o'.IsIdle) : SameText o o'
  | refuse (v : Violation) : SameText (refuse v) (refuse v)

namespace SameText

theorem refl (o : Outcome) : o.SameText o := by
  cases o with
  | emit call => exact .emit (.refl call)
  | skip => exact .idle trivial trivial
  | dropOrder requested error => exact .idle trivial trivial
  | refuse v => exact .refuse v

theorem forField (f : Field) (call : String) {o o' : Outcome} (h : o.SameText o') :
    (Outcome.forField f call o).SameText (Outcome.forField f call o') := by
  unfold Outcome.forField
  split
  · exact refl _
  · exact h

/-- Where there are requests, the next step decides. -/
theorem forBag (h₁ : q.bag = some bag₁) (h₂ : q'.bag = some bag₂) (call : String)
    {next next' : Bag → Outcome} (h : (next bag₁).SameText (next' bag₂)) :
    (Outcome.forBag q call next).SameText (Outcome.forBag q' call next') := by
  unfold Outcome.forBag
  rwa [h₁, h₂]

/-- Where both values are there or neither is, the next step decides. -/
theorem forSome {α : Type} {x y : Option α} (hsome : x.isSome = y.isSome)
    {next next' : α → Outcome} (h : ∀ a b, (next a).SameText (next' b)) :
    (Outcome.forSome x next).SameText (Outcome.forSome y next') := by
  -- What is there in one request and not in the other is excluded.
  cases x with
  | none =>
    cases y with
    | none => exact refl _
    | some b => exact nomatch hsome
  | some a =>
    cases y with
    | none => exact nomatch hsome
    | some b => exact h a b

/-- A comparison of the same column by the same operator, whatever the value. -/
private theorem emit_compare (column param : String) {o o' : Comparison} (h : o = o')
    (v v' : Value) :
    (Outcome.emit (compare column param o v)).SameText (.emit (compare column param o' v')) := by
  subst h
  exact .emit (.condition _ _ _)

end SameText

end Outcome

/-- An empty order is no identifier. -/
private theorem isIdle_orderFor_empty (isAscending : Bool) : (orderFor "" isAscending).IsIdle := by
  have hread : Ident.read (Text.trim "") = .error .empty := by rfl
  unfold orderFor
  rw [hread]
  trivial

/-- An empty order is as good as none. -/
private theorem isIdle_requestedOrder {bag : Bag} (h : bag.orderText = "") :
    (requestedOrder bag).IsIdle := by
  rw [requestedOrder_eq, h]
  -- Whether there is an empty order or none makes no difference.
  split
  · exact isIdle_orderFor_empty _
  · trivial

/-- What the order of a request comes down to is decided by two of its values. -/
private theorem sameText_requestedOrder (htext : bag₁.orderText = bag₂.orderText)
    (hflag : bag₁.orderFlag = bag₂.orderFlag) :
    (requestedOrder bag₁).SameText (requestedOrder bag₂) := by
  by_cases hempty : bag₁.orderText = ""
  · -- One request may have an empty order and the other none.
    exact .idle (isIdle_requestedOrder hempty) (isIdle_requestedOrder (htext ▸ hempty))
  · rw [requestedOrder_eq, requestedOrder_eq,
      if_pos (bag₁.fetch?_isSome_of_orderText_ne hempty),
      if_pos (bag₂.fetch?_isSome_of_orderText_ne (htext ▸ hempty)), htext, hflag]
    exact .refl _

/-! ## Queries -/

/-- Queries that differ in their requests and in what is bound to parameters only. -/
structure SameText (q q' : Query) : Prop where
  model : q.model = q'.model
  builder : q.builder.SameText q'.builder
  violation : q.violation = q'.violation

namespace SameText

/-- Queries for requests that agree on a call come down to the same, up to the values. -/
theorem outcome (h : q.SameText q') (h₁ : q.bag = some bag₁) (h₂ : q'.bag = some bag₂)
    {call : Call} (hcall : call.Agrees bag₁ bag₂) :
    (q.outcome call).SameText (q'.outcome call) := by
  -- Taken apart, the two queries share all fields that an outcome is made of but the request.
  obtain ⟨model, ⟨mode, identity, clauses, params, config⟩, bag, violation⟩ := q
  obtain ⟨model', ⟨mode', identity', clauses', params', config'⟩, bag', violation'⟩ := q'
  obtain ⟨rfl, ⟨rfl, rfl, rfl, rfl⟩, rfl⟩ := h
  subst h₁ h₂
  induction call with
  | when f accept operator =>
    -- A comparison binds whatever value was found, by an operator that both choose.
    refine .forField f "when" (.forBag rfl rfl "when" (.forSome hcall.1 fun x y => ?_))
    cases operator with
    | none => exact .emit_compare _ _ (hcall.2 rfl) _ _
    | some operator => exact .emit_compare _ _ rfl _ _
  | whenRaw t expr param =>
    show Outcome.SameText (if expr = "" then _ else _) (if expr = "" then _ else _)
    split
    · exact .refl _
    · exact .forBag rfl rfl "when_raw" (.forSome hcall.1 fun x y =>
        .emit_compare _ _ hcall.2 _ _)
  | between f accept =>
    rw [outcome_between, outcome_between]
    exact .forField f "between" (.forBag rfl rfl "between" (.forSome hcall fun x y =>
      .emit (.condition _ _ _)))
  | set f accept =>
    exact .forField f "set" (.forBag rfl rfl "set" (.forSome hcall fun x y =>
      .emit (.set _ _ _)))
  | orderByRequest =>
    exact .forBag rfl rfl "order_by" (sameText_requestedOrder hcall.1 hcall.2)
  | pageOfRequest countRows totals =>
    -- Index and size are read with the defaults of the same configuration.
    have hindex := Bag.get_eq_of_fetch?_eq (t := .int .int32) config.pageIndex hcall.1
    have hsize := Bag.get_eq_of_fetch?_eq (t := .int .int32) config.pageSize hcall.2
    refine .forBag rfl rfl "page" ?_
    show Outcome.SameText
      (.emit (.page (bag₁.get (.int .int32) Bag.pageIndexKey config.pageIndex)
        (bag₁.get (.int .int32) Bag.pageSizeKey config.pageSize) countRows totals)) _
    rw [hindex, hsize]
    exact .refl _
  | gated isOpen call ih =>
    show Outcome.SameText (if isOpen then _ else _) (if isOpen then _ else _)
    split
    · exact ih (hcall ‹_›)
    · exact .refl _
  | _ => exact .refl _

/-- Outcomes with the same text make no difference. -/
theorem accept (h : q.SameText q') {o o' : Outcome} (ho : o.SameText o') :
    (q.accept o).SameText (q'.accept o') := by
  cases ho with
  | emit hcall => exact ⟨h.model, h.builder.apply hcall, h.violation⟩
  | idle ho ho' =>
    -- An order that is dropped leaves no more behind than a call that is skipped.
    have hidle : ∀ (p : Query) {o : Outcome}, o.IsIdle → p.accept o = p := by
      intro p o ho
      cases o with
      | skip | dropOrder requested error => rfl
      | emit call | refuse v => exact ho.elim
    rwa [hidle q ho, hidle q' ho']
  | refuse v => exact ⟨h.model, h.builder, congrArg (Option.or · (some v)) h.violation⟩

/-- A call on which the requests agree makes no difference. -/
theorem apply (h : q.SameText q') (h₁ : q.bag = some bag₁) (h₂ : q'.bag = some bag₂)
    {call : Call} (hcall : call.Agrees bag₁ bag₂) : (q.apply call).SameText (q'.apply call) :=
  h.accept (h.outcome h₁ h₂ hcall)

/-- Calls on which the requests agree make no difference. -/
theorem run (h : q.SameText q') (h₁ : q.bag = some bag₁) (h₂ : q'.bag = some bag₂)
    {calls : List Call} (hcalls : ∀ call ∈ calls, call.Agrees bag₁ bag₂) :
    (q.run calls).SameText (q'.run calls) := by
  induction calls generalizing q q' with
  | nil => exact h
  | cons call calls ih =>
    -- Queries keep their requests, so the calls behind the first one are compared alike.
    have hcall := hcalls call List.mem_cons_self
    refine ih (h.apply h₁ h₂ hcall) ?_ ?_ fun c hc => hcalls c (List.mem_cons_of_mem call hc)
    · rw [bag_apply, h₁]
    · rw [bag_apply, h₂]

/-- The text does not depend on the values, nor does the error. -/
theorem render_eq (h : q.SameText q') : q.render = q'.render := by
  rw [render, render, h.violation, h.builder.render_eq]

end SameText

/-- **Values of a request reach the statement through parameters only**: two requests that agree on
    each call give the same text, or the same error. -/
theorem render_run_eq_of_agrees (model : Model) (bag₁ bag₂ : Bag) (calls : List Call)
    (h : ∀ call ∈ calls, call.Agrees bag₁ bag₂) :
    ((ofBag model bag₁).run calls).render = ((ofBag model bag₂).run calls).render := by
  have hstart : (ofBag model bag₁).SameText (ofBag model bag₂) := ⟨rfl, .refl _, rfl⟩
  exact (hstart.run rfl rfl h).render_eq

/-- A request for the users of a name whose age is in a range. -/
def honestRequest : Bag :=
  .ofList [("name", .text "ann"), ("age", .array [.text "1", .text "4"]),
    (Bag.orderByKey, .text "u.age")]

/-- Such a request with a name that would close a text literal. -/
def forgedRequest : Bag :=
  .ofList [("name", .text "' OR ''='"), ("age", .array [.text "8", .text "9"]),
    (Bag.orderByKey, .text "u.age")]

/-- Other values leave the text as it is. -/
theorem render_run_forgedRequest :
    let user : Model := ⟨"user"⟩
    let calls : List Call :=
      [.table "u", .when (.new user "name" "name" .text) none none,
        .between (.new user "age" "age" .text) none, .orderByRequest, .pageOfRequest false ""]
    (∀ call ∈ calls, call.Agrees honestRequest forgedRequest) ∧
      ((ofBag user honestRequest).run calls).render =
        ((ofBag user forgedRequest).run calls).render := by
  have hname : (lookup? honestRequest .text "name" none).isSome =
      (lookup? forgedRequest .text "name" none).isSome := by rfl
  have hoperator : honestRequest.get .comparison (Comparison.keyFor "name") .equal =
      forgedRequest.get .comparison (Comparison.keyFor "name") .equal := by rfl
  have hage : (bounds? honestRequest (.new ⟨"user"⟩ "age" "age" .text) none).isSome =
      (bounds? forgedRequest (.new ⟨"user"⟩ "age" "age" .text) none).isSome := by rfl
  have horder : honestRequest.orderText = forgedRequest.orderText := by rfl
  have hflag : honestRequest.orderFlag = forgedRequest.orderFlag := by rfl
  have hindex : honestRequest.fetch? (.int .int32) Bag.pageIndexKey =
      forgedRequest.fetch? (.int .int32) Bag.pageIndexKey := by rfl
  have hsize : honestRequest.fetch? (.int .int32) Bag.pageSizeKey =
      forgedRequest.fetch? (.int .int32) Bag.pageSizeKey := by rfl
  intro user calls
  have hcalls : ∀ call ∈ calls, call.Agrees honestRequest forgedRequest := by
    intro call hcall
    simp only [calls, List.mem_cons, List.not_mem_nil, or_false] at hcall
    rcases hcall with rfl | rfl | rfl | rfl | rfl
    · trivial
    · exact ⟨hname, fun _ => hoperator⟩
    · exact hage
    · exact ⟨horder, hflag⟩
    · exact ⟨hindex, hsize⟩
  exact ⟨hcalls, render_run_eq_of_agrees user honestRequest forgedRequest calls hcalls⟩

end Query

end SqlAssembly
