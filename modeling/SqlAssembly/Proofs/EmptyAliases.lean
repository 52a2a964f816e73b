import SqlAssembly.Proofs.IncompleteFields

/-! # Empty aliases

A field may be given an alias that is the empty text.  Where a column is written by the kind of the
statement, and where a join names its table, that counts as no alias.  The qualifier of a field does
not look at it: an empty alias stands in front of the dot in place of the table.  So the calls that
qualify their columns, which are the joins and the columns of a SELECT, write something else for an
empty alias than for none, and all other calls write the same.

* `Field.withoutEmptyAlias`           a field without its alias, if that is empty
* `Query.Call.withoutEmptyAliases`    a call on fields without their empty aliases
* `Query.Call.qualifiedFields`        the fields that a call qualifies
* `Query.outcome_withoutEmptyAliases` a call comes down to the same if the qualifiers are the same
* `Query.qualifier_eq_of_apply_eq`    and does the same only then, unless something is wrong with it
* `Query.apply_withoutEmptyAliases_eq_iff`   when an empty alias counts as none -/

namespace SqlAssembly

/-! ## Fields -/

namespace Field

/-- The field without its alias, if that is empty. -/
def withoutEmptyAlias (f : Field) : Field :=
  { f with tableAlias := f.tableAlias.filter (· ≠ "") }

variable (f : Field)

private theorem tableAlias_withoutEmptyAlias :
    f.withoutEmptyAlias.tableAlias = if f.tableAlias = some "" then none else f.tableAlias := by
  unfold withoutEmptyAlias
  cases f.tableAlias with
  | none => rfl
  | some a =>
    by_cases ha : a = ""
    · rw [ha]
      rfl
    · have hkept : (some a).filter (· ≠ "") = some a := by simp [ha]
      exact hkept.trans (if_neg fun h => ha (Option.some.inj h)).symm

/-- Neither an empty alias nor its lack gives a name to a table. -/
private theorem getD_tableAlias_withoutEmptyAlias :
    f.withoutEmptyAlias.tableAlias.getD "" = f.tableAlias.getD "" := by
  rw [tableAlias_withoutEmptyAlias]
  split
  · rename_i h
    rw [h]
    rfl
  · rfl

/-- An empty alias is dropped for the table. -/
private theorem qualifier_withoutEmptyAlias :
    f.withoutEmptyAlias.qualifier =
      if f.tableAlias = some "" then f.model.table else f.qualifier := by
  rw [qualifier, tableAlias_withoutEmptyAlias]
  split
  · rfl
  · rfl

/-- The qualifier stays the same if there is no empty alias, or else no table. -/
private theorem qualifier_withoutEmptyAlias_eq_iff :
    f.withoutEmptyAlias.qualifier = f.qualifier ↔
      (f.tableAlias = some "" → f.model.table = "") := by
  rw [qualifier_withoutEmptyAlias]
  split
  · -- an empty alias, which stood where the table would
    rename_i h
    rw [qualifier, h]
    exact ⟨fun htable _ => htable, fun htable => htable rfl⟩
  · -- another alias or none, which is left alone
    rename_i h
    exact ⟨fun _ halias => absurd halias h, fun _ => rfl⟩

private theorem length_qualifier_le :
    f.qualifier.length ≤ f.withoutEmptyAlias.qualifier.length := by
  rw [qualifier_withoutEmptyAlias]
  split
  · rename_i h
    rw [qualifier, h]
    exact Nat.zero_le _
  · exact Nat.le_refl _

variable {f}

/-- As the qualifier can only change from the empty text, its length tells whether it does. -/
private theorem qualifier_eq_of_length
    (h : f.withoutEmptyAlias.qualifier.length = f.qualifier.length) :
    f.withoutEmptyAlias.qualifier = f.qualifier := by
  -- Only an empty alias can change it, from the empty text to the table.
  by_cases hempty : f.tableAlias = some ""
  · rw [qualifier_withoutEmptyAlias, if_pos hempty, qualifier, hempty] at h ⊢
    exact String.length_eq_zero_iff.1 h
  · rw [qualifier_withoutEmptyAlias, if_neg hempty]

theorem qualified_eq_iff :
    f.withoutEmptyAlias.qualified = f.qualified ↔
      f.withoutEmptyAlias.qualifier = f.qualifier :=
  (String.append_left_inj f.column).trans (String.append_left_inj ".")

end Field

namespace Query

/-! ## Calls -/

/-- The call on its fields without their empty aliases. -/
def Call.withoutEmptyAliases : Call → Call
  | .when f accept operator => .when f.withoutEmptyAlias accept operator
  | .between f accept => .between f.withoutEmptyAlias accept
  | .betweenValues f low high => .betweenValues f.withoutEmptyAlias low high
  | .set f accept => .set f.withoutEmptyAlias accept
  | .setValue f v => .setValue f.withoutEmptyAlias v
  | .setLiteral f expr => .setLiteral f.withoutEmptyAlias expr
  | .value f v => .value f.withoutEmptyAlias v
  | .valueLiteral f expr => .valueLiteral f.withoutEmptyAlias expr
  | .duplicate f expr => .duplicate f.withoutEmptyAlias expr
  | .conditionOn f text args => .conditionOn f.withoutEmptyAlias text args
  | .conditionIn f values => .conditionIn f.withoutEmptyAlias values
  | .joinOn kind f equals => .joinOn kind f.withoutEmptyAlias equals.withoutEmptyAlias
  | .joinIf kind f text => .joinIf kind f.withoutEmptyAlias text
  | .orderBy f direction => .orderBy f.withoutEmptyAlias direction
  | .groupBy f => .groupBy f.withoutEmptyAlias
  | .selectFields fields => .selectFields (fields.map Field.withoutEmptyAlias)
  | .selectAs f aliasName => .selectAs f.withoutEmptyAlias aliasName
  | .gated isOpen call => .gated isOpen call.withoutEmptyAliases
  | call => call

/-- The fields whose columns a call writes behind their qualifiers, whatever the statement. -/
def Call.qualifiedFields : Call → List Field
  | .joinOn _ f equals => [f, equals]
  | .joinIf _ f _ | .selectAs f _ => [f]
  | .selectFields fields => fields
  | .gated isOpen call => if isOpen then call.qualifiedFields else []
  | _ => []

/-- What is wrong with a call does not hang on the aliases. -/
private theorem violation?_withoutEmptyAliases (call : Call) (hasBag : Bool) :
    call.withoutEmptyAliases.violation? hasBag = call.violation? hasBag := by
  induction call with
  | gated isOpen call ih =>
    cases isOpen with
    | true => exact ih
    | false => rfl
  | _ => rfl

/-! ## What a call comes down to -/

variable (q : Query)

private theorem fieldSql_withoutEmptyAlias (f : Field) :
    q.fieldSql f.withoutEmptyAlias = q.fieldSql f := by
  rw [fieldSql, Field.tableAlias_withoutEmptyAlias]
  split
  · rename_i h
    rw [fieldSql, h]
    rfl
  · rfl

/-- The bounds of a column are looked up without its alias. -/
private theorem bounds?_withoutEmptyAlias (bag : Bag) (f : Field)
    (accept : Option (List f.type.Carrier → Bool)) :
    bounds? bag f.withoutEmptyAlias accept = bounds? bag f accept := by
  -- Type and name of the field are the same without the alias.
  have hfetch : bag.fetch? f.withoutEmptyAlias.type.list f.withoutEmptyAlias.name =
      bag.fetch? f.type.list f.name := rfl
  unfold bounds?
  rw [hfetch]
  rcases (bag.fetch? (.list f.type) f.name : Option (List f.type.Carrier)) with
    _ | _ | ⟨low, _ | ⟨high, _ | ⟨x, xs⟩⟩⟩ <;> rfl

/-- A call comes down to the same without the empty aliases if that changes no qualifier that the
    call writes. -/
theorem outcome_withoutEmptyAliases {call : Call}
    (h : ∀ f ∈ call.qualifiedFields, f.withoutEmptyAlias.qualifier = f.qualifier) :
    q.outcome call.withoutEmptyAliases = q.outcome call := by
  -- All that a call takes from an alias is the column, the name of a table or a qualified column.
  have hcolumn := q.fieldSql_withoutEmptyAlias
  have hname := Field.getD_tableAlias_withoutEmptyAlias
  have hqualified : ∀ f ∈ call.qualifiedFields, f.withoutEmptyAlias.qualified = f.qualified :=
    fun f hf => Field.qualified_eq_iff.2 (h f hf)
  induction call with
  | when f accept operator | conditionOn f text args | conditionIn f values | orderBy f direction
  | groupBy f =>
    simp only [Call.withoutEmptyAliases, outcome, hcolumn]
    rfl
  | betweenValues f low high =>
    simp only [Call.withoutEmptyAliases, outcome, betweenBounds, hcolumn]
    rfl
  | between f accept =>
    refine (q.outcome_between f.withoutEmptyAlias accept).trans
      (Eq.trans ?_ (q.outcome_between f accept).symm)
    refine congrArg (Outcome.forField f "between") (congrArg (Outcome.forBag q "between") ?_)
    -- The condition has the same column, and the bounds are looked up the same way.
    funext bag
    simp only [betweenBounds, hcolumn]
    exact congrArg (fun b => Outcome.forSome b _) (bounds?_withoutEmptyAlias bag f accept)
  | joinOn kind f equals =>
    have hf := hqualified f List.mem_cons_self
    have hequals := hqualified equals (List.mem_cons_of_mem f List.mem_cons_self)
    simp only [Call.withoutEmptyAliases, outcome, hname, hf, hequals]
    rfl
  | joinIf kind f text =>
    have hf := hqualified f List.mem_cons_self
    simp only [Call.withoutEmptyAliases, outcome, hname, hf]
    rfl
  | selectAs f aliasName =>
    have hf := hqualified f List.mem_cons_self
    simp only [Call.withoutEmptyAliases, outcome, hf]
    rfl
  | selectFields fields =>
    have hfields : (fields.map Field.withoutEmptyAlias).map Field.qualified =
        fields.map Field.qualified := by
      rw [List.map_map]
      exact List.map_congr_left hqualified
    exact congrArg (fun columns => Outcome.emit (.select columns)) hfields
  | gated isOpen call ih =>
    cases isOpen with
    | true => exact ih h hqualified
    | false => rfl
  | _ => rfl

/-! ## What a call changes -/

variable {q}

/-- Two calls that do the same add the same fragments. -/
private theorem pick_added_eq_of_apply_eq {call call' : Call} {emitted emitted' : Builder.Call}
    (h : q.outcome call = .emit emitted) (h' : q.outcome call' = .emit emitted') {k : Clause}
    (hk : k ∉ emitted.replaced) (hk' : k ∉ emitted'.replaced) (heq : q.apply call = q.apply call') :
    k.pick (emitted.added q.builder.mode) = k.pick (emitted'.added q.builder.mode) := by
  -- Neither call drops the clause, so that the fragments in front cancel out.
  have hget := congrArg (fun q : Query => q.builder.clauses.get k) heq
  simp only [builder_apply_of_emit h, builder_apply_of_emit h', Builder.get_clauses_apply,
    if_neg hk, if_neg hk'] at hget
  exact List.append_cancel_left hget

/-- Two joins that do the same, with the same table and name, have the same condition. -/
private theorem condition_eq_of_apply_join_eq {call call' : Call} {kind : JoinType}
    {table name on on' : String} (h : q.outcome call = .emit (.join kind table name on))
    (h' : q.outcome call' = .emit (.join kind table name on'))
    (heq : q.apply call = q.apply call') : on = on' := by
  have hadded := pick_added_eq_of_apply_eq h h' (k := .join) List.not_mem_nil List.not_mem_nil heq
  exact (String.append_right_inj _).1 (Fragment.text.inj (List.cons.inj hadded).1)

/-- Two calls that do the same select the same columns. -/
private theorem columns_eq_of_apply_select_eq {call call' : Call} {columns columns' : List String}
    (h : q.outcome call = .emit (.select columns)) (h' : q.outcome call' = .emit (.select columns'))
    (heq : q.apply call = q.apply call') :
    columns = columns' := by
  -- The columns are the texts added to the clause, one for one.
  have hpick : ∀ columns : List String,
      Clause.select.pick (Builder.Call.added q.builder.mode (.select columns)) =
        columns.map .text := fun columns => by
    have hmap : Builder.Call.added q.builder.mode (.select columns) =
        (columns.map .text).map (Clause.select, ·) := by
      rw [List.map_map]
      rfl
    rw [hmap, Clause.pick_map_self]
  have hadded := pick_added_eq_of_apply_eq h h' (k := .select) List.not_mem_nil List.not_mem_nil heq
  rw [hpick, hpick] at hadded
  exact (List.map_inj_right fun _ _ => Fragment.text.inj).1 hadded

/-- A field with nothing wrong passes the check. -/
private theorem forField_of_fieldViolation? {f : Field} {name : String}
    (h : fieldViolation? f name = none) (next : Outcome) : Outcome.forField f name next = next := by
  rw [fieldViolation?, ite_eq_right_iff] at h
  exact if_neg fun hincomplete => Option.some_ne_none _ (h (Field.isIncomplete_iff.1 hincomplete))

/-- If a call with nothing wrong does the same without the empty aliases, that changes no qualifier
    that the call writes. -/
theorem qualifier_eq_of_apply_eq {call : Call} (hvalid : call.violation? q.bag.isSome = none)
    (heq : q.apply call.withoutEmptyAliases = q.apply call) :
    ∀ f ∈ call.qualifiedFields, f.withoutEmptyAlias.qualifier = f.qualifier := by
  induction call with
  | joinOn kind f equals =>
    obtain ⟨hf, hequals⟩ := Option.or_eq_none_iff.1 hvalid
    have hemit : ∀ g h : Field, fieldViolation? g "join" = none → fieldViolation? h "join" = none →
        q.outcome (.joinOn kind g h) = .emit (.join kind g.model.table (g.tableAlias.getD "")
          (g.qualified ++ " = " ++ h.qualified)) := fun g h hg hh =>
      (forField_of_fieldViolation? hg _).trans (forField_of_fieldViolation? hh _)
    have hemitted := hemit f.withoutEmptyAlias equals.withoutEmptyAlias hf hequals
    rw [Field.getD_tableAlias_withoutEmptyAlias] at hemitted
    have hon := condition_eq_of_apply_join_eq hemitted (hemit f equals hf hequals) heq
    -- Neither qualifier gets shorter, and both together keep their length.
    have hlength := congrArg String.length hon
    have hle := f.length_qualifier_le
    have hle' := equals.length_qualifier_le
    simp only [Field.qualified, String.length_append] at hlength
    have hsame : f.withoutEmptyAlias.column = f.column := rfl
    have hsame' : equals.withoutEmptyAlias.column = equals.column := rfl
    rw [hsame, hsame'] at hlength
    exact List.forall_mem_cons.2 ⟨Field.qualifier_eq_of_length (by omega),
      List.forall_mem_singleton.2 (Field.qualifier_eq_of_length (by omega))⟩
  | joinIf kind f text =>
    obtain ⟨hf, htext⟩ := Option.or_eq_none_iff.1 hvalid
    -- A condition that is blank would have been refused.
    rw [conditionViolation?, ite_eq_right_iff] at htext
    have hemit : ∀ g : Field, fieldViolation? g "join" = none →
        q.outcome (.joinIf kind g text) = .emit (.join kind g.model.table (g.tableAlias.getD "")
          (g.qualified ++ " " ++ text)) := fun g hg =>
      (forField_of_fieldViolation? hg _).trans (if_neg fun h => Option.some_ne_none _ (htext h))
    have hemitted := hemit f.withoutEmptyAlias hf
    rw [Field.getD_tableAlias_withoutEmptyAlias] at hemitted
    have hon := condition_eq_of_apply_join_eq hemitted (hemit f hf) heq
    have hqualified := (String.append_left_inj " ").1 ((String.append_left_inj text).1 hon)
    exact List.forall_mem_singleton.2 (Field.qualified_eq_iff.1 hqualified)
  | selectAs f aliasName =>
    have hemit : ∀ g : Field, fieldViolation? g "select" = none →
        q.outcome (.selectAs g aliasName) =
          .emit (.select [Builder.aliased g.qualified aliasName]) := fun g hg =>
      forField_of_fieldViolation? hg _
    have hcolumns := columns_eq_of_apply_select_eq (hemit f.withoutEmptyAlias hvalid)
      (hemit f hvalid) heq
    have hcolumn := (List.cons.inj hcolumns).1
    refine List.forall_mem_singleton.2 (Field.qualified_eq_iff.1 ?_)
    -- The name behind the column, if there is one, is the same on both sides.
    unfold Builder.aliased at hcolumn
    split at hcolumn
    · exact hcolumn
    · exact (String.append_left_inj " ").1 ((String.append_left_inj aliasName).1 hcolumn)
  | selectFields fields =>
    have hemit : ∀ fields, q.outcome (.selectFields fields) =
        .emit (.select (fields.map Field.qualified)) := fun _ => rfl
    have hcolumns := columns_eq_of_apply_select_eq (hemit (fields.map Field.withoutEmptyAlias))
      (hemit fields) heq
    rw [List.map_map] at hcolumns
    -- The columns agree at each place, so each field keeps its qualifier.
    exact fun f hf => Field.qualified_eq_iff.1 (List.map_inj_left.1 hcolumns f hf)
  | gated isOpen call ih =>
    cases isOpen with
    | true => exact ih hvalid heq
    | false => exact fun f hf => absurd hf List.not_mem_nil
  | _ => exact fun f hf => absurd hf List.not_mem_nil

/-! ## Empty aliases and none -/

/-- A call does the same without the empty aliases if it is refused, or if each field that it
    qualifies by an empty alias has no table that could stand there. -/
private theorem apply_withoutEmptyAliases {call : Call}
    (h : (call.violation? q.bag.isSome).isSome = true ∨
      ∀ f ∈ call.qualifiedFields, f.tableAlias = some "" → f.model.table = "") :
    q.apply call.withoutEmptyAliases = q.apply call := by
  rcases h with hrefused | hqualified
  · -- a refused call, for which the aliases do not matter
    obtain ⟨v, hv⟩ := Option.isSome_iff_exists.1 hrefused
    rw [apply_eq_of_violation?, violation?_withoutEmptyAliases, apply_eq_of_violation? q call, hv]
  · -- a call that comes down to the same
    have houtcome := q.outcome_withoutEmptyAliases fun f hf =>
      f.qualifier_withoutEmptyAlias_eq_iff.2 (hqualified f hf)
    rw [apply, houtcome, apply]

/-- **When an empty alias counts as none.**  In every state a call does exactly the same with empty
    aliases as without aliases, unless it is carried out and writes a column behind its qualifier:
    then an empty alias stands in the place of the table, and the call does the same only if the
    table has no name.  So runs are the same if none of their calls qualifies a column by an empty
    alias. -/
theorem apply_withoutEmptyAliases_eq_iff (q : Query) :
    (∀ call : Call,
      q.apply call.withoutEmptyAliases = q.apply call ↔
        (call.violation? q.bag.isSome).isSome = true ∨
          ∀ f ∈ call.qualifiedFields, f.tableAlias = some "" → f.model.table = "") ∧
    ∀ calls : List Call,
      (∀ call ∈ calls, ∀ f ∈ call.qualifiedFields, f.tableAlias ≠ some "") →
        q.run (calls.map Call.withoutEmptyAliases) = q.run calls := by
  refine ⟨fun call => ⟨fun heq => ?_, apply_withoutEmptyAliases⟩, fun calls h => ?_⟩
  · cases hvalid : call.violation? q.bag.isSome with
    | some v => exact .inl rfl
    | none =>
      exact .inr fun f hf =>
        f.qualifier_withoutEmptyAlias_eq_iff.1 (qualifier_eq_of_apply_eq hvalid heq f hf)
  · induction calls generalizing q with
    | nil => rfl
    | cons call calls ih =>
      rw [List.forall_mem_cons] at h
      have hstep : q.apply call.withoutEmptyAliases = q.apply call :=
        apply_withoutEmptyAliases (.inr fun f hf halias => absurd halias (h.1 f hf))
      rw [List.map_cons, run_cons, run_cons, hstep]
      exact ih (q.apply call) h.2

/-- The key of the customers, under an empty alias. -/
def unnamedKey : Field := (Field.new ⟨"customers"⟩ "id" "id" (.int .int64)).withAlias ""

/-- The orders, with the reference of an order to a customer under no alias. -/
def ordersQuery : Query := (ofModel ⟨"orders"⟩).apply (.table "")

/-- A join on the key lacks the table in front of its column, and a condition on it does not. -/
theorem apply_withoutEmptyAliases_unnamedKey :
    let join : Call := .joinOn .left unnamedKey
      (.new ⟨"orders"⟩ "customerId" "customer_id" (.int .int64))
    ordersQuery.apply join.withoutEmptyAliases ≠ ordersQuery.apply join ∧
      (ordersQuery.apply join).render.toOption =
        some "SELECT * FROM orders LEFT JOIN customers ON .id = orders.customer_id" ∧
      (ordersQuery.apply join.withoutEmptyAliases).render.toOption =
        some "SELECT * FROM orders LEFT JOIN customers ON customers.id = orders.customer_id" ∧
      ordersQuery.run ([Call.conditionOn unnamedKey "> 1" []].map Call.withoutEmptyAliases) =
        ordersQuery.run [.conditionOn unnamedKey "> 1" []] := by
  intro join
  obtain ⟨hcall, hrun⟩ := apply_withoutEmptyAliases_eq_iff ordersQuery
  refine ⟨fun heq => ?_, by decide +kernel, by decide +kernel, ?_⟩
  · rcases (hcall join).1 heq with hrefused | htable
    · exact absurd hrefused (by decide)
    · exact absurd (htable unnamedKey List.mem_cons_self rfl) (by decide)
  · exact hrun _ (List.forall_mem_singleton.2 fun f hf => absurd hf List.not_mem_nil)

end Query

end SqlAssembly
