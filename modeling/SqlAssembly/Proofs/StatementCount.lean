import SqlAssembly.Proofs.IdentifierText
import SqlAssembly.Proofs.Lookups
import SqlAssembly.Proofs.StatementPieces

/-! # How many statements a request can make

But for numbers and operators, all that a request puts into the text of a statement is its order,
and that is an identifier.  An identifier may have semicolons between its backticks, though, and the
statements of a text are told apart by semicolons alone.  So a query without semicolons of its own
makes as many statements as it asks for, unless it takes over an order with a semicolon.

* `Query.Call.IsPlain`          no semicolon in the texts of a call
* `Query.Call.TakesOrder`       whether a call takes the order of the request
* `Bag.Orders`                  the order that a request asks for
* `Query.mem_get_clauses_run`   a fragment of a run has no semicolon or is the order of the request
* `Query.length_pieces_build`   the number of statements -/

namespace SqlAssembly

/-! ## What is promised of calls -/

/-- Whether the texts of a field have no semicolon. -/
def Field.IsPlain (f : Field) : Prop :=
  Text.IsPlain f.model.table ∧ Text.IsPlain f.column ∧ ∀ a ∈ f.tableAlias, Text.IsPlain a

namespace Query

/-- Whether the tables, columns, aliases, conditions, literals and totals of a call have no
    semicolon.  Values are free to have them. -/
def Call.IsPlain : Call → Prop
  | .table aliasName => Text.IsPlain aliasName
  | .tableOf model aliasName => Text.IsPlain model.table ∧ Text.IsPlain aliasName
  | .when f _ _ | .between f _ | .betweenValues f _ _ | .set f _ | .setValue f _ | .value f _
  | .conditionIn f _ | .orderBy f _ | .groupBy f => f.IsPlain
  | .whenRaw _ expr param => Text.IsPlain expr ∧ Text.IsPlain param
  | .setLiteral f expr | .valueLiteral f expr | .duplicate f expr =>
    f.IsPlain ∧ Text.IsPlain expr
  | .conditionOn f text _ | .joinIf _ f text => f.IsPlain ∧ Text.IsPlain text
  | .condition text _ => Text.IsPlain text
  | .joinOn _ f equals => f.IsPlain ∧ equals.IsPlain
  | .selectFields fields => ∀ f ∈ fields, f.IsPlain
  | .selectAs f aliasName => f.IsPlain ∧ Text.IsPlain aliasName
  | .select columns => ∀ c ∈ columns, Text.IsPlain c
  | .pageOfRequest _ totals | .page _ _ _ totals => Text.IsPlain totals
  | .gated isOpen call => isOpen = true → call.IsPlain
  | .configure _ | .insert | .update | .delete | .selectIdentity | .orderByRequest | .clearSelect
  | .limit .. | .forUpdate => True

/-- Whether a call takes over the order of the request. -/
def Call.TakesOrder : Call → Prop
  | .orderByRequest => True
  | .gated isOpen call => isOpen = true ∧ call.TakesOrder
  | _ => False

end Query

/-! ## The order of a request -/

namespace Bag

/-- Whether a request asks for the order by a column: its text is an identifier. -/
def Orders (bag : Bag) (column : String) : Prop :=
  ∃ ident, Ident.read (Text.trim bag.orderText) = .ok ident ∧ ident.sql = column

/-- The order by a column, which way the request asks for. -/
def orderFragment (bag : Bag) (column : String) : Fragment :=
  .text (column ++ " " ++ (Direction.ofAscending bag.orderFlag).sql)

variable {bag : Bag} {column : String}

/-- A column that is asked for is not empty, so the builder does not put `1` in its place. -/
theorem Orders.ne_empty (h : bag.Orders column) : column ≠ "" := by
  obtain ⟨ident, hread, rfl⟩ := h
  intro hempty
  -- An empty column would have been read from an empty text, which is no identifier.
  have htext : Text.trim bag.orderText = "" :=
    (Ident.isValid_and_sql_of_read hread).2.symm.trans hempty
  rw [htext] at hread
  exact nomatch hread

/-- An order that is asked for is there. -/
private theorem Orders.fetch?_isSome (h : bag.Orders column) :
    (bag.fetch? .text orderByKey).isSome = true := by
  obtain ⟨ident, hread, -⟩ := h
  refine bag.fetch?_isSome_of_orderText_ne fun hempty => ?_
  rw [hempty] at hread
  exact nomatch hread

theorem Orders.requestedOrder_eq (h : bag.Orders column) :
    Query.requestedOrder bag = .emit (.orderBy column (.ofAscending bag.orderFlag)) := by
  rw [Query.requestedOrder_eq, if_pos h.fetch?_isSome, Query.orderFor]
  obtain ⟨ident, hread, rfl⟩ := h
  rw [hread]

/-- The order of a request reaches the builder as the column that the request asks for. -/
private theorem exists_of_requestedOrder {call : Builder.Call}
    (h : Query.requestedOrder bag = .emit call) :
    ∃ column, bag.Orders column ∧ call = .orderBy column (.ofAscending bag.orderFlag) := by
  rw [Query.requestedOrder_eq, Query.orderFor] at h
  split at h
  · split at h
    · -- Only an identifier gets as far as the builder.
      rename_i ident hread
      exact ⟨ident.sql, ⟨ident, hread, rfl⟩, (Query.Outcome.emit.inj h).symm⟩
    · exact nomatch h
  · exact nomatch h

private theorem Orders.added_eq (h : bag.Orders column) (mode : Mode) :
    (Builder.Call.orderBy column (.ofAscending bag.orderFlag)).added mode =
      [(.orderBy, bag.orderFragment column)] := by
  rw [Builder.Call.added, if_neg h.ne_empty, orderFragment]

end Bag

/-! ## Columns -/

namespace Query

variable {q : Query} {f : Field}

private theorem isPlain_qualified (h : f.IsPlain) : Text.IsPlain f.qualified := by
  obtain ⟨htable, hcolumn, halias⟩ := h
  -- The qualifier is the alias, or the table if there is none.
  have hqualifier : Text.IsPlain f.qualifier := by
    rw [Field.qualifier]
    cases hf : f.tableAlias with
    | none => exact htable
    | some a => exact halias a hf
  simp only [Field.qualified, Text.isPlain_append]
  exact ⟨⟨hqualifier, by decide⟩, hcolumn⟩

private theorem isPlain_fieldSql (q : Query) (h : f.IsPlain) : Text.IsPlain (q.fieldSql f) :=
  not_mem_columnSql (by decide) (by decide) h.2.1 h.2.2

private theorem isPlain_getD_alias (h : f.IsPlain) : Text.IsPlain (f.tableAlias.getD "") := by
  cases hf : f.tableAlias with
  | none => exact List.not_mem_nil
  | some a => exact h.2.2 a hf

private theorem isPlain_compare {column param : String} (hcolumn : Text.IsPlain column)
    (hparam : Text.IsPlain param) (o : Comparison) (v : Value) :
    (compare column param o v).IsPlain := by
  -- The signs of comparison have none.
  have hoperator : Text.IsPlain o.sql := by cases o <;> decide
  simp only [compare, Builder.Call.IsPlain, Text.isPlain_append]
  exact ⟨⟨⟨⟨hcolumn, by decide⟩, hoperator⟩, by decide⟩, hparam⟩

private theorem isPlain_betweenBounds (q : Query) (h : f.IsPlain) (low high : Value) :
    (q.betweenBounds f low high).IsPlain := by
  simp only [betweenBounds, Builder.Call.IsPlain, Text.isPlain_append]
  exact ⟨⟨⟨⟨⟨q.isPlain_fieldSql h, by decide⟩, h.2.1⟩, by decide⟩, h.2.1⟩, by decide⟩

/-! ## Steps -/

/-- What the builder is asked for has no semicolon, or it is the order of the request. -/
private theorem isPlain_or_order_of_outcome (hmodel : Text.IsPlain q.model.table) {call : Call}
    (hcall : call.IsPlain) {emitted : Builder.Call} (h : q.outcome call = .emit emitted) :
    emitted.IsPlain ∨
      call.TakesOrder ∧ ∃ bag, q.bag = some bag ∧ requestedOrder bag = .emit emitted := by
  -- Only a call for the order of the request gives the second alternative, perhaps behind a gate.
  induction call with
  | configure config | selectIdentity | clearSelect | limit offset rows | forUpdate =>
    obtain rfl := Outcome.emit.inj h
    exact .inl trivial
  | table aliasName =>
    obtain rfl := Outcome.emit.inj h
    exact .inl ⟨hmodel, hcall⟩
  | tableOf model aliasName | condition text args | select columns
  | page index size countRows totals =>
    obtain rfl := Outcome.emit.inj h
    exact .inl hcall
  | insert | update | delete =>
    obtain rfl := Outcome.emit.inj h
    exact .inl hmodel
  | when f accept operator =>
    obtain ⟨bag, x, -, -, rfl⟩ := exists_of_outcome_when h
    exact .inl (isPlain_compare (q.isPlain_fieldSql hcall) hcall.2.1 _ _)
  | whenRaw t expr param =>
    rw [outcome] at h
    split at h
    · exact nomatch h
    · obtain ⟨bag, -, h⟩ := Outcome.exists_bag_of_forBag h
      obtain ⟨x, -, h⟩ := Outcome.exists_of_forSome h
      obtain rfl := Outcome.emit.inj h
      -- The parameter is named by the caller or after the last segment of the expression.
      refine .inl (isPlain_compare hcall.1 ?_ _ _)
      split
      · exact Placeholder.isPlain_cleanLast hcall.1
      · exact hcall.2
  | between f accept =>
    obtain ⟨bag, low, high, -, -, rfl⟩ := exists_of_outcome_between h
    exact .inl (q.isPlain_betweenBounds hcall _ _)
  | betweenValues f low high =>
    obtain rfl := Outcome.emit.inj (Outcome.eq_emit_of_forField h)
    exact .inl (q.isPlain_betweenBounds hcall _ _)
  | set f accept =>
    obtain ⟨bag, -, h⟩ := Outcome.exists_bag_of_forBag (Outcome.eq_emit_of_forField h)
    obtain ⟨x, -, h⟩ := Outcome.exists_of_forSome h
    obtain rfl := Outcome.emit.inj h
    exact .inl trivial
  | setValue f v =>
    obtain rfl := Outcome.emit.inj (Outcome.eq_emit_of_forField h)
    exact .inl trivial
  | setLiteral f expr | valueLiteral f expr =>
    obtain rfl := Outcome.emit.inj (Outcome.eq_emit_of_forField h)
    exact .inl ⟨hcall.1.2.1, hcall.2⟩
  | value f v =>
    obtain rfl := Outcome.emit.inj (Outcome.eq_emit_of_forField h)
    left
    simp only [Builder.Call.IsPlain, Text.isPlain_append]
    exact ⟨⟨by decide, hcall.2.1⟩, by decide⟩
  | duplicate f expr =>
    obtain rfl := Outcome.emit.inj h
    exact .inl ⟨hcall.1.2.1, hcall.2⟩
  | conditionOn f text args =>
    have h := Outcome.eq_emit_of_forField h
    split at h
    · exact nomatch h
    · obtain rfl := Outcome.emit.inj h
      left
      simp only [Builder.Call.IsPlain, Text.isPlain_append]
      exact ⟨⟨q.isPlain_fieldSql hcall.1, by decide⟩, hcall.2⟩
  | conditionIn f values =>
    rw [outcome] at h
    split at h
    · exact nomatch h
    · obtain rfl := Outcome.emit.inj h
      left
      show Text.IsPlain (if _ then _ else _)
      split
      · exact q.isPlain_fieldSql hcall
      · exact hcall.2.1
  | joinOn kind f equals =>
    obtain rfl := Outcome.emit.inj (Outcome.eq_emit_of_forField (Outcome.eq_emit_of_forField h))
    refine .inl ⟨hcall.1.1, isPlain_getD_alias hcall.1, ?_⟩
    simp only [Text.isPlain_append]
    exact ⟨⟨isPlain_qualified hcall.1, by decide⟩, isPlain_qualified hcall.2⟩
  | joinIf kind f text =>
    have h := Outcome.eq_emit_of_forField h
    split at h
    · exact nomatch h
    · obtain rfl := Outcome.emit.inj h
      refine .inl ⟨hcall.1.1, isPlain_getD_alias hcall.1, ?_⟩
      simp only [Text.isPlain_append]
      exact ⟨⟨isPlain_qualified hcall.1, by decide⟩, hcall.2⟩
  | orderByRequest =>
    obtain ⟨bag, hbag, h⟩ := Outcome.exists_bag_of_forBag h
    exact .inr ⟨trivial, bag, hbag, h⟩
  | orderBy f direction =>
    obtain rfl := Outcome.emit.inj (Outcome.eq_emit_of_forField h)
    exact .inl (q.isPlain_fieldSql hcall)
  | groupBy f =>
    obtain rfl := Outcome.emit.inj (Outcome.eq_emit_of_forField h)
    left
    intro s hs
    rw [List.mem_singleton.1 hs]
    exact q.isPlain_fieldSql hcall
  | selectFields fields =>
    obtain rfl := Outcome.emit.inj h
    left
    intro s hs
    obtain ⟨f, hf, rfl⟩ := List.mem_map.1 hs
    exact isPlain_qualified (hcall f hf)
  | selectAs f aliasName =>
    obtain rfl := Outcome.emit.inj (Outcome.eq_emit_of_forField h)
    left
    intro s hs
    rw [List.mem_singleton.1 hs]
    exact Builder.isPlain_aliased (isPlain_qualified hcall.1) hcall.2
  | pageOfRequest countRows totals =>
    obtain ⟨bag, -, h⟩ := Outcome.exists_bag_of_forBag h
    obtain rfl := Outcome.emit.inj h
    exact .inl hcall
  | gated isOpen call ih =>
    cases isOpen with
    | true => exact (ih (hcall rfl) h).imp_right fun ⟨htakes, horder⟩ => ⟨⟨rfl, htakes⟩, horder⟩
    | false => exact nomatch h

variable {bag : Bag}

/-- A fragment behind a call was there before, has no semicolon, or is the order of the request. -/
theorem mem_get_clauses_apply (hbag : q.bag = some bag) (hmodel : Text.IsPlain q.model.table)
    {call : Call} (hcall : call.IsPlain) {k : Clause} {f : Fragment}
    (hf : f ∈ (q.apply call).builder.clauses.get k) :
    f ∈ q.builder.clauses.get k ∨ f.IsPlain ∨
      k = .orderBy ∧ call.TakesOrder ∧ ∃ column, bag.Orders column ∧
        f = bag.orderFragment column := by
  rw [apply] at hf
  cases houtcome : q.outcome call with
  | skip | dropOrder | refuse =>
    rw [houtcome] at hf
    exact .inl hf
  | emit emitted =>
    rw [houtcome] at hf
    refine (Builder.mem_get_clauses_apply hf).imp_right fun hadded => ?_
    rcases isPlain_or_order_of_outcome hmodel hcall houtcome with
      hplain | ⟨htakes, bag', hbag', horder⟩
    · exact .inl (hplain.of_mem_added hadded)
    · -- The order is that of the one request that the query is for.
      obtain rfl : bag = bag' := Option.some.inj (hbag.symm.trans hbag')
      obtain ⟨column, horders, rfl⟩ := Bag.exists_of_requestedOrder horder
      rw [horders.added_eq, List.mem_singleton] at hadded
      obtain ⟨rfl, rfl⟩ := Prod.mk.inj hadded
      exact .inr ⟨rfl, htakes, column, horders, rfl⟩

/-- A call that takes the order of the request adds it. -/
private theorem orderFragment_mem_apply (hbag : q.bag = some bag) {column : String}
    (horders : bag.Orders column) {call : Call} (htakes : call.TakesOrder) :
    bag.orderFragment column ∈ (q.apply call).builder.clauses.get .orderBy := by
  -- An open gate lets the call behind it take the order.
  have houtcome : q.outcome call = .emit (.orderBy column (.ofAscending bag.orderFlag)) := by
    induction call with
    | orderByRequest =>
      rw [outcome, Outcome.forBag, hbag]
      exact horders.requestedOrder_eq
    | gated isOpen call ih =>
      rw [outcome, if_pos htakes.1]
      exact ih htakes.2
    | _ => exact htakes.elim
  rw [builder_apply_of_emit houtcome, Builder.get_clauses_apply, horders.added_eq]
  exact List.mem_append_right _ (Clause.mem_pick.2 List.mem_cons_self)

/-- An order stays. -/
private theorem mem_orderBy_apply {f : Fragment} (hf : f ∈ q.builder.clauses.get .orderBy)
    (call : Call) : f ∈ (q.apply call).builder.clauses.get .orderBy := by
  rw [apply]
  cases q.outcome call with
  | skip | dropOrder | refuse => exact hf
  | emit emitted =>
    -- No call replaces orders; they are only added to.
    show f ∈ (q.builder.apply emitted).clauses.get .orderBy
    rw [Builder.get_clauses_apply, if_neg (Builder.not_mem_replaced (by decide) emitted)]
    exact List.mem_append_left _ hf

/-! ## Runs -/

/-- A fragment behind a run was there before, has no semicolon, or is the order of the request. -/
theorem mem_get_clauses_run (hbag : q.bag = some bag) (hmodel : Text.IsPlain q.model.table)
    {calls : List Call} (hcalls : ∀ call ∈ calls, call.IsPlain) {k : Clause} {f : Fragment}
    (hf : f ∈ (q.run calls).builder.clauses.get k) :
    f ∈ q.builder.clauses.get k ∨ f.IsPlain ∨
      k = .orderBy ∧ (∃ call ∈ calls, call.TakesOrder) ∧ ∃ column, bag.Orders column ∧
        f = bag.orderFragment column := by
  induction calls generalizing q with
  | nil => exact .inl hf
  | cons call calls ih =>
    obtain ⟨hcall, hrest⟩ := List.forall_mem_cons.1 hcalls
    -- The table and the request stay what they are, so the rest of the run can be taken over.
    have hmodel' : Text.IsPlain (q.apply call).model.table := by rwa [model_apply]
    rcases ih ((q.bag_apply call).trans hbag) hmodel' hrest hf with hf | hf | ⟨hk, htakes, hf⟩
    · rcases mem_get_clauses_apply hbag hmodel hcall hf with hf | hf | ⟨hk, htakes, hf⟩
      · exact .inl hf
      · exact .inr (.inl hf)
      · exact .inr (.inr ⟨hk, ⟨call, List.mem_cons_self, htakes⟩, hf⟩)
    · exact .inr (.inl hf)
    · obtain ⟨later, hmem, htakes⟩ := htakes
      exact .inr (.inr ⟨hk, ⟨later, List.mem_cons_of_mem call hmem, htakes⟩, hf⟩)

private theorem mem_orderBy_run {f : Fragment} (hf : f ∈ q.builder.clauses.get .orderBy)
    (calls : List Call) : f ∈ (q.run calls).builder.clauses.get .orderBy := by
  induction calls generalizing q with
  | nil => exact hf
  | cons call calls ih => exact ih (mem_orderBy_apply hf call)

/-- An order that is taken over is there behind the run. -/
private theorem orderFragment_mem_run (hbag : q.bag = some bag) {column : String}
    (horders : bag.Orders column) {calls : List Call} (htakes : ∃ call ∈ calls, call.TakesOrder) :
    bag.orderFragment column ∈ (q.run calls).builder.clauses.get .orderBy := by
  obtain ⟨call, hmem, htakes⟩ := htakes
  induction calls generalizing q with
  | nil => exact absurd hmem List.not_mem_nil
  | cons first calls ih =>
    -- The call that takes the order is the first one or a later one.
    rcases List.mem_cons.1 hmem with rfl | hmem
    · exact mem_orderBy_run (orderFragment_mem_apply hbag horders htakes) calls
    · exact ih ((q.bag_apply first).trans hbag) hmem

/-- A query builds what its builder does. -/
private theorem build_builder_of_build {s : Statement} (h : q.build = .ok s) :
    q.builder.build = .ok s := by
  rw [build] at h
  split at h
  · exact nomatch h
  · cases hbuild : q.builder.build with
    | error e =>
      rw [hbuild] at h
      exact nomatch h
    | ok s' =>
      rw [hbuild] at h
      rw [Except.ok.inj h]

/-- **A request adds statements only by a semicolon in its order.**  If the texts of the calls and
    the table of the model have no semicolon, a statement falls into as many statements as were
    asked for, unless it is a SELECT that takes over an order with a semicolon; then there are
    more. -/
theorem length_pieces_build (model : Model) (bag : Bag) (calls : List Call)
    (hmodel : Text.IsPlain model.table) (hcalls : ∀ call ∈ calls, call.IsPlain) {s : Statement}
    (hbuild : ((ofBag model bag).run calls).build = .ok s) :
    let b := ((ofBag model bag).run calls).builder
    b.statementCount ≤ s.pieces.length ∧
      (s.pieces.length = b.statementCount ↔
        ¬ (b.mode = .select ∧ (∃ call ∈ calls, call.TakesOrder) ∧
          ∃ column, bag.Orders column ∧ ';' ∈ column.toList)) := by
  intro b
  have hrender : b.render = .ok s.sql := Builder.render_of_build (build_builder_of_build hbuild)
  -- The query starts without fragments, so all of them come from its calls.
  have hfragments : ∀ k, ∀ f ∈ b.clauses.get k, f.IsPlain ∨
      k = .orderBy ∧ (∃ call ∈ calls, call.TakesOrder) ∧ ∃ column, bag.Orders column ∧
        f = bag.orderFragment column := fun k f hf =>
    (mem_get_clauses_run rfl hmodel hcalls hf).resolve_left List.not_mem_nil
  -- The order is the one fragment that may have a semicolon, and only a SELECT shows it.
  by_cases hsplit : b.mode = .select ∧ (∃ call ∈ calls, call.TakesOrder) ∧
      ∃ column, bag.Orders column ∧ ';' ∈ column.toList
  · obtain ⟨hmode, htakes, column, horders, hcolumn⟩ := hsplit
    have hmem := orderFragment_mem_run (q := ofBag model bag) rfl horders htakes
    have hlt := Builder.statementCount_lt_of_order hmode hmem (fun h => h hcolumn) hrender
    exact ⟨Nat.le_of_lt hlt, iff_of_false (Nat.ne_of_gt hlt)
      fun h => h ⟨hmode, htakes, column, horders, hcolumn⟩⟩
  · have hcount : (Statement.piecesOf s.sql).length = b.statementCount := by
      refine Builder.length_piecesOf_render (fun k hk f hf => ?_) hrender
      rcases hfragments k f hf with hplain | ⟨horderBy, htakes, column, horders, rfl⟩
      · exact hplain
      · -- An order that is rendered here has no semicolon in its column.
        have hcolumn : Text.IsPlain column := fun hmem =>
          hsplit ⟨hk horderBy, htakes, column, horders, hmem⟩
        have hdirection : ∀ d : Direction, Text.IsPlain d.sql := fun d => by cases d <;> decide
        rw [Bag.orderFragment, Fragment.isPlain_text]
        simp only [Text.isPlain_append]
        exact ⟨⟨hcolumn, by decide⟩, hdirection _⟩
    exact ⟨Nat.le_of_eq hcount.symm, iff_of_true hcount hsplit⟩

/-- A request for the order by a column whose quoted name has a semicolon. -/
def quotedOrder : Bag := .ofList [(Bag.orderByKey, .text "`a;b`")]

/-- A counted page falls apart at the semicolon of its order, in the rows and in the count query. -/
theorem length_pieces_build_quotedOrder :
    let orders : Model := ⟨"orders"⟩
    let calls : List Call :=
      [.table "", .orderByRequest, .page (IntWidth.int32.clamp 1) (IntWidth.int32.clamp 20) true ""]
    Text.IsPlain orders.table ∧ (∀ call ∈ calls, call.IsPlain) ∧
      ∃ s, ((ofBag orders quotedOrder).run calls).build = .ok s ∧
        ((ofBag orders quotedOrder).run calls).builder.statementCount = 2 ∧
        s.pieces.length ≠ 2 := by
  intro orders calls
  have hmodel : Text.IsPlain orders.table := by decide
  have hcalls : ∀ call ∈ calls, call.IsPlain := by
    intro call hcall
    simp only [calls, List.mem_cons, List.not_mem_nil, or_false] at hcall
    rcases hcall with rfl | rfl | rfl
    · exact (by decide : Text.IsPlain "")
    · trivial
    · exact (by decide : Text.IsPlain "")
  have horders : quotedOrder.Orders "`a;b`" := ⟨⟨[.quoted "a;b"]⟩, by rfl, by rfl⟩
  have hcount : ((ofBag orders quotedOrder).run calls).builder.statementCount = 2 := by rfl
  obtain ⟨s, hbuild⟩ : ∃ s, ((ofBag orders quotedOrder).run calls).build = .ok s := ⟨_, rfl⟩
  have hpieces := length_pieces_build orders quotedOrder calls hmodel hcalls hbuild
  refine ⟨hmodel, hcalls, s, hbuild, hcount, fun hlength => ?_⟩
  have htakes : ∃ call ∈ calls, call.TakesOrder :=
    ⟨.orderByRequest, List.mem_cons_of_mem _ List.mem_cons_self, trivial⟩
  exact hpieces.2.1 (hlength.trans hcount.symm) ⟨rfl, htakes, _, horders, by decide⟩

end Query

end SqlAssembly
