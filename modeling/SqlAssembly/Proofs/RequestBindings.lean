import SqlAssembly.Proofs.BoundNames
import SqlAssembly.Proofs.CallEffects
import SqlAssembly.Proofs.Lookups
import SqlAssembly.Proofs.PlaceholderTokens

/-! # What a comparison with the request binds

A comparison and a pair of bounds name their parameters after the column of the field.  They are
bound to the values that the request has, unless one of these is an object: then it is the fields of
the objects that are bound, under names that the request chooses, and the parameters of the column
stay as they were.  Only fields whose type takes in objects are open to that.

* `Params.BindsOnly`                  some names are bound, and nothing changes for any other name
* `Params.bindsOnly_addAll`           parameters bound one by one
* `Builder.bindsOnly_bindArgs_iff`    the arguments of a condition bind its parameters only unless
                                      the fields of the objects among them have other names
* `FieldType.isObject_embed`          most types have no object among their values
* `Query.bindsOnly_apply_iff`         what a comparison and a pair of bounds bind -/

namespace SqlAssembly

open Placeholder

/-! ## Parameters -/

namespace Params

variable {p p' : Params} {names : List String}

/-- From `p` to `p'` the names are bound, and the entries of other names are kept. -/
def BindsOnly (p p' : Params) (names : List String) : Prop :=
  (∀ n ∈ names, p'.contains n = true) ∧
    p'.entries.filter (fun e => e.1 ∉ names) = p.entries.filter (fun e => e.1 ∉ names)

/-- To give a name a value changes no entry of another name. -/
private theorem filter_assign {key : String} (h : key ∈ names) (value : Value)
    (entries : List (String × Value)) :
    (assign key value entries).filter (fun e => e.1 ∉ names) =
      entries.filter (fun e => e.1 ∉ names) := by
  -- An entry of the name itself is filtered out.
  have hskip : ∀ (v : Value) (rest : List (String × Value)),
      ((key, v) :: rest).filter (fun e => e.1 ∉ names) = rest.filter (fun e => e.1 ∉ names) :=
    fun v rest => List.filter_cons_of_neg (by simpa using h)
  induction entries with
  | nil => exact hskip value []
  | cons e rest ih =>
    obtain ⟨n, v⟩ := e
    rw [assign]
    split
    · -- The entry that gets the value is filtered out, before and after.
      rename_i hn
      subst hn
      rw [hskip, hskip]
    · rw [List.filter_cons, List.filter_cons, ih]

/-- Names bound one by one keep the entries of other names. -/
private theorem filter_addAll {bindings : List (String × Value)}
    (h : ∀ b ∈ bindings, clean b.1 ∈ names) :
    (p.addAll bindings).entries.filter (fun e => e.1 ∉ names) =
      p.entries.filter (fun e => e.1 ∉ names) := by
  induction bindings generalizing p with
  | nil => rfl
  | cons b bs ih =>
    rw [addAll, List.foldl_cons, ← addAll, ih fun b' hb' => h b' (List.mem_cons_of_mem b hb'), add,
      filter_assign (h b List.mem_cons_self)]

/-- Parameters bound one by one are all that is bound. -/
theorem bindsOnly_addAll {bindings : List (String × Value)}
    (h : bindings.map (fun b => clean b.1) = names) (hclean : ∀ n ∈ names, clean n = n) :
    BindsOnly p (p.addAll bindings) names := by
  constructor
  · intro n hn
    rw [contains_addAll, h, hclean n hn]
    exact .inl hn
  · refine filter_addAll fun b hb => ?_
    rw [← h]
    exact List.mem_map_of_mem hb

/-- Entries put behind all others bind nothing else if they have no other name, and each name
    is there or has been. -/
theorem bindsOnly_append_iff {entries : List (String × Value)} (hclean : ∀ n ∈ names, clean n = n) :
    BindsOnly p ⟨p.entries ++ entries⟩ names ↔
      (∀ n ∈ entries.map (·.1), n ∈ names) ∧
        ∀ n ∈ names, n ∈ entries.map (·.1) ∨ p.contains n = true := by
  -- A name is bound if an old or a new entry has it.
  have hcontains : ∀ n ∈ names, (Params.mk (p.entries ++ entries)).contains n = true ↔
      n ∈ entries.map (·.1) ∨ p.contains n = true := by
    intro n hn
    rw [contains_iff, contains_iff, hclean n hn, Params.names, List.map_append, List.mem_append]
    exact or_comm
  -- All new entries have to be filtered out.
  have hfilter : (p.entries ++ entries).filter (fun e => e.1 ∉ names) =
      p.entries.filter (fun e => e.1 ∉ names) ↔ ∀ n ∈ entries.map (·.1), n ∈ names := by
    rw [List.filter_append, List.append_right_eq_self, List.filter_eq_nil_iff]
    simp
  rw [BindsOnly, hfilter, and_comm]
  exact and_congr_right fun _ => forall₂_congr hcontains

end Params

/-! ## Arguments of conditions -/

/-- The names that an argument binds by its fields, if it is an object. -/
def Value.fieldNames (v : Value) : List String := (v.fields?.getD []).map fun f => clean f.1

namespace Builder

variable {p : Params} {text : String} {args : List Value} {names : List String}

/-- The fields of the objects among the arguments are bound behind all bindings. -/
private theorem exists_bindObjects_eq (p : Params) (args : List Value) :
    ∃ entries, bindObjects p args = ⟨p.entries ++ entries⟩ ∧
      entries.map (·.1) = args.flatMap Value.fieldNames := by
  induction args generalizing p with
  | nil => exact ⟨[], congrArg Params.mk (List.append_nil _).symm, rfl⟩
  | cons a args ih =>
    cases a with
    | object fields =>
      -- The fields of the first object come before those of the others.
      obtain ⟨entries, heq, hnames⟩ := ih (p.merge fields)
      refine ⟨fields.map (fun f => (clean f.1, Value.ofJson f.2)) ++ entries, ?_, ?_⟩
      · rw [bindObjects, heq, Params.merge, List.append_assoc]
      · rw [List.map_append, List.map_map, hnames]
        rfl
    | _ => exact ih p

/-- Whether arguments bind certain names only: none of them is an object, or the fields of the
    objects have those names, and each of the names that no field has was bound before. -/
def StaysWithin (p : Params) (args : List Value) (names : List String) : Prop :=
  (∀ a ∈ args, a.isObject = false) ∨
    ((∀ n ∈ args.flatMap Value.fieldNames, n ∈ names) ∧
      ∀ n ∈ names, n ∈ args.flatMap Value.fieldNames ∨ p.contains n = true)

/-- Arguments as many as the parameters of a condition bind these only unless they are objects with
    other fields. -/
theorem bindsOnly_bindArgs_iff (htokens : tokens text = names.map ("@" ++ ·))
    (hlength : args.length = names.length) (hne : names ≠ [])
    (hclean : ∀ n ∈ names, clean n = n) :
    Params.BindsOnly p (bindArgs p text args) names ↔ StaysWithin p args names := by
  -- There are as many arguments as placeholders, so only an object among them matters.
  have hpositional : isPositional text args = true ↔ ∀ a ∈ args, a.isObject = false := by
    simp [isPositional_iff, htokens, hlength, hne]
  by_cases hobjects : ∀ a ∈ args, a.isObject = false
  · -- The placeholders are bound one by one, and they are the names.
    rw [bindArgs, if_pos (hpositional.2 hobjects), htokens]
    refine iff_of_true (Params.bindsOnly_addAll ?_ hclean) (.inl hobjects)
    rw [map_clean_zip (by rw [List.length_map, hlength]), List.map_map]
    refine List.map_congr_left (fun n hn => ?_) |>.trans (List.map_id names)
    exact (clean_at n).trans (hclean n hn)
  · -- One object is enough for the placeholders to be passed over.
    rw [bindArgs, if_neg (fun h => hobjects (hpositional.1 h))]
    obtain ⟨entries, heq, hnames⟩ := exists_bindObjects_eq p args
    rw [heq, Params.bindsOnly_append_iff hclean, hnames, StaysWithin, or_iff_right hobjects]

end Builder

/-! ## Types without objects -/

namespace FieldType

/-- Whether the value of an element may be an object. -/
def hasObjects : FieldType → Bool
  | value | json | span => true
  | option t => t.hasObjects
  | _ => false

/-- The other types have no object among their values. -/
theorem isObject_embed {t : FieldType} (h : t.hasObjects = false) (x : t.Carrier) :
    (t.embed x).isObject = false := by
  induction t with
  | int w => cases w <;> rfl
  | value | json | span => exact nomatch h
  | option t ih =>
    cases x with
    | none => rfl
    | some x => exact ih h x
  | _ => rfl

end FieldType

/-! ## Values of comparisons and bounds -/

namespace Query

variable {q : Query} {f : Field}

theorem isObject_operand (o : Comparison) (v : Value) : (operand o v).isObject = v.isObject := by
  cases o <;> cases v <;> rfl

private theorem fieldNames_operand (o : Comparison) (v : Value) :
    (operand o v).fieldNames = v.fieldNames := by
  cases o <;> cases v <;> rfl

theorem isObject_roundTrip (v : Value) : v.roundTrip.isObject = v.isObject := by
  cases v <;> rfl

private theorem fieldNames_roundTrip (v : Value) : v.roundTrip.fieldNames = v.fieldNames := by
  cases v <;> rfl

/-- Values changed otherwise than in their fields stay within the same names. -/
private theorem staysWithin_map {g : Value → Value} (hobject : ∀ v, (g v).isObject = v.isObject)
    (hfields : ∀ v, (g v).fieldNames = v.fieldNames) {p : Params} {args : List Value}
    {names : List String} :
    Builder.StaysWithin p (args.map g) names ↔ Builder.StaysWithin p args names := by
  -- Both conditions look at fields and at what is an object only.
  have hnames : (args.map g).flatMap Value.fieldNames = args.flatMap Value.fieldNames := by
    rw [List.flatMap_map]
    exact congrArg (fun h => args.flatMap h) (funext hfields)
  rw [Builder.StaysWithin, Builder.StaysWithin, hnames, List.forall_mem_map]
  simp only [hobject]

/-! ## Conditions -/

/-- A comparison has the placeholder of its parameter behind those of the column as it stands. -/
theorem tokens_compare_eq (column : String) {param : String} (hparam : Text.isWordText param = true)
    (o : Comparison) :
    tokens (column ++ " " ++ o.sql ++ " @" ++ param) = tokens column ++ ["@" ++ param] := by
  have hglue : isGlue (" " ++ o.sql ++ " ") = true := by cases o <;> decide
  -- The sign of comparison and its blanks are a separator.
  have hsplit : column ++ " " ++ o.sql ++ " @" ++ param =
      column ++ (" " ++ o.sql ++ " ") ++ ("@" ++ param) := by
    have hlit : " @" = " " ++ "@" := by decide
    rw [hlit]
    simp only [String.append_assoc, -String.reduceAppend]
  rw [hsplit, tokens_glue hglue, tokens_at_word hparam]

/-- A comparison has the placeholder of its parameter only. -/
theorem tokens_compare {column param : String} (hcolumn : '@' ∉ column.toList)
    (hparam : Text.isWordText param = true) (o : Comparison) :
    tokens (column ++ " " ++ o.sql ++ " @" ++ param) = ["@" ++ param] := by
  rw [tokens_compare_eq column hparam, tokens_of_not_mem hcolumn]
  rfl

/-- The names of the parameters of two bounds. -/
def boundNames (f : Field) : List String := [f.column ++ "1", f.column ++ "2"]

theorem isWordText_append {a b : String} (ha : Text.isWordText a = true)
    (hb : b.toList.all Text.isWord = true) : Text.isWordText (a ++ b) = true := by
  obtain ⟨c, cs, hcs⟩ := exists_cons_of_isWordText ha
  rw [Text.isWordText, hcs] at ha
  rw [Text.isWordText, String.toList_append, List.all_append, hcs, hb, Bool.and_true]
  exact ha

private theorem isWordText_of_mem_boundNames (hcolumn : Text.isWordText f.column = true)
    {n : String} (hn : n ∈ boundNames f) : Text.isWordText n = true := by
  simp only [boundNames, List.mem_cons, List.not_mem_nil, or_false] at hn
  rcases hn with rfl | rfl
  · exact isWordText_append hcolumn (by decide)
  · exact isWordText_append hcolumn (by decide)

/-- A pair of bounds has the placeholders of its two parameters behind those of the column as it
    stands. -/
theorem tokens_between_eq (column : String) {param : String}
    (hlow : Text.isWordText (param ++ "1") = true) (hhigh : Text.isWordText (param ++ "2") = true) :
    tokens (column ++ " BETWEEN @" ++ param ++ "1 AND @" ++ param ++ "2") =
      tokens column ++ ["@" ++ (param ++ "1"), "@" ++ (param ++ "2")] := by
  -- Both literals with an at sign are cut in front of it.
  have hsplit : column ++ " BETWEEN @" ++ param ++ "1 AND @" ++ param ++ "2" =
      column ++ " BETWEEN " ++ ("@" ++ (param ++ "1") ++ " AND " ++ ("@" ++ (param ++ "2"))) := by
    have hbetween : " BETWEEN @" = " BETWEEN " ++ "@" := by decide
    have hand : "1 AND @" = "1" ++ (" AND " ++ "@") := by decide
    rw [hbetween, hand]
    simp only [String.append_assoc, -String.reduceAppend]
  rw [hsplit, tokens_glue (by decide), tokens_glue (by decide), tokens_at_word hlow,
    tokens_at_word hhigh]
  rfl

/-- A pair of bounds has the placeholders of its two parameters. -/
private theorem tokens_between {column param : String} (hcolumn : '@' ∉ column.toList)
    (hlow : Text.isWordText (param ++ "1") = true) (hhigh : Text.isWordText (param ++ "2") = true) :
    tokens (column ++ " BETWEEN @" ++ param ++ "1 AND @" ++ param ++ "2") =
      ["@" ++ (param ++ "1"), "@" ++ (param ++ "2")] := by
  rw [tokens_between_eq column hlow hhigh, tokens_of_not_mem hcolumn]
  rfl

/-- A field whose column and alias are words has no at sign in its column as it stands. -/
theorem not_mem_fieldSql (hcolumn : Text.isWordText f.column = true)
    (halias : ∀ a ∈ f.tableAlias, a = "" ∨ Text.isWordText a = true) :
    '@' ∉ (q.fieldSql f).toList := by
  refine not_mem_columnSql (by decide) (by decide) (not_mem_of_isWordText hcolumn isWord_at)
    fun a ha => ?_
  rcases halias a ha with rfl | ha
  · exact List.not_mem_nil
  · exact not_mem_of_isWordText ha isWord_at

/-! ## Calls -/

/-- A comparison binds its parameter only unless the value is an object with other fields. -/
theorem bindsOnly_compare_iff (b : Builder) {column param : String} (hcolumn : '@' ∉ column.toList)
    (hparam : Text.isWordText param = true) (o : Comparison) (v : Value) :
    Params.BindsOnly b.params (b.apply (compare column param o v)).params [param] ↔
      Builder.StaysWithin b.params [v] [param] := by
  have hclean : ∀ n ∈ [param], clean n = n := by
    intro n hn
    rw [List.mem_singleton.1 hn, clean_of_isWordText hparam]
  -- A pattern is put around a text, which changes nothing about objects.
  have hmap : Builder.StaysWithin b.params ([v].map (operand o)) [param] ↔
      Builder.StaysWithin b.params [v] [param] :=
    staysWithin_map (isObject_operand o) (fieldNames_operand o)
  exact (Builder.bindsOnly_bindArgs_iff (tokens_compare hcolumn hparam o) rfl
    (List.cons_ne_nil _ _) hclean).trans hmap

/-- Two bounds bind their parameters only unless they are objects with other fields. -/
theorem bindsOnly_betweenBounds_iff (q : Query) (hcolumn : Text.isWordText f.column = true)
    (halias : ∀ a ∈ f.tableAlias, a = "" ∨ Text.isWordText a = true) (low high : Value) :
    Params.BindsOnly q.builder.params (q.builder.apply (q.betweenBounds f low high)).params
        (boundNames f) ↔
      Builder.StaysWithin q.builder.params [low, high] (boundNames f) := by
  have hword : ∀ n ∈ boundNames f, Text.isWordText n = true :=
    fun n hn => isWordText_of_mem_boundNames hcolumn hn
  have htokens := tokens_between (not_mem_fieldSql (q := q) hcolumn halias)
    (hword _ List.mem_cons_self) (hword _ (List.mem_cons_of_mem _ List.mem_cons_self))
  -- Moments become texts, which changes nothing about objects.
  have hmap : Builder.StaysWithin q.builder.params ([low, high].map .roundTrip) (boundNames f) ↔
      Builder.StaysWithin q.builder.params [low, high] (boundNames f) :=
    staysWithin_map isObject_roundTrip fieldNames_roundTrip
  exact (Builder.bindsOnly_bindArgs_iff htokens rfl (List.cons_ne_nil _ _)
    fun n hn => clean_of_isWordText (hword n hn)).trans hmap

/-- **What a comparison and a pair of bounds bind.**  If the builder is asked for the comparison of
    a field with the request, the parameter of its column is bound and nothing else is, unless the
    value is an object: its fields then have to be named after the column, which is the choice of
    the request.  The same holds for the two parameters of a pair of bounds.  A field of a type
    without objects is safe. -/
theorem bindsOnly_apply_iff (q : Query) (f : Field) (hcolumn : Text.isWordText f.column = true)
    (halias : ∀ a ∈ f.tableAlias, a = "" ∨ Text.isWordText a = true) :
    (∀ accept operator call, q.outcome (.when f accept operator) = .emit call →
      ∃ bag x, q.bag = some bag ∧ bag.fetch? f.type f.name = some x ∧
        (Params.BindsOnly q.builder.params (q.apply (.when f accept operator)).builder.params
            [f.column] ↔
          Builder.StaysWithin q.builder.params [f.type.embed x] [f.column])) ∧
    (∀ accept call, q.outcome (.between f accept) = .emit call →
      ∃ bag low high, q.bag = some bag ∧ bag.getArray? f.type f.name = some [low, high] ∧
        (Params.BindsOnly q.builder.params (q.apply (.between f accept)).builder.params
            (boundNames f) ↔
          Builder.StaysWithin q.builder.params [f.type.embed low, f.type.embed high]
            (boundNames f))) ∧
    (f.type.hasObjects = false →
      (∀ accept operator call, q.outcome (.when f accept operator) = .emit call →
        Params.BindsOnly q.builder.params (q.apply (.when f accept operator)).builder.params
          [f.column]) ∧
      ∀ accept call, q.outcome (.between f accept) = .emit call →
        Params.BindsOnly q.builder.params (q.apply (.between f accept)).builder.params
          (boundNames f)) := by
  have hsql := not_mem_fieldSql (q := q) hcolumn halias
  have hcompare := bindsOnly_compare_iff q.builder hsql hcolumn
  have hbetween := bindsOnly_betweenBounds_iff q hcolumn halias
  refine ⟨fun accept operator call h => ?_, fun accept call h => ?_,
    fun hobjects => ⟨fun accept operator call h => ?_, fun accept call h => ?_⟩⟩
  · obtain ⟨bag, x, hbag, hx, rfl⟩ := exists_of_outcome_when h
    refine ⟨bag, x, hbag, hx, ?_⟩
    rw [builder_apply_of_emit h]
    exact hcompare _ _
  · obtain ⟨bag, low, high, hbag, hx, rfl⟩ := exists_of_outcome_between h
    refine ⟨bag, low, high, hbag, hx, ?_⟩
    rw [builder_apply_of_emit h]
    exact hbetween _ _
  · obtain ⟨bag, x, -, -, rfl⟩ := exists_of_outcome_when h
    rw [builder_apply_of_emit h, hcompare]
    -- No value of the type is an object.
    left
    intro a ha
    rw [List.mem_singleton.1 ha]
    exact FieldType.isObject_embed hobjects x
  · obtain ⟨bag, low, high, -, -, rfl⟩ := exists_of_outcome_between h
    rw [builder_apply_of_emit h, hbetween]
    left
    simp only [List.forall_mem_cons]
    exact ⟨FieldType.isObject_embed hobjects low, FieldType.isObject_embed hobjects high, nofun⟩

/-- A field that takes any value. -/
def identityField : Field := .new ⟨"orders"⟩ "id" "id" .value

/-- A query for a request that has an object for the field. -/
def objectQuery : Query :=
  .ofBag identityField.model (.ofList [("id", .object [("x", .string "1")])])

/-- The object takes the place of the parameter: `x` is bound and `id` is not. -/
theorem not_bindsOnly_objectQuery :
    Text.isWordText identityField.column = true ∧
      (∀ a ∈ identityField.tableAlias, a = "" ∨ Text.isWordText a = true) ∧
      (∃ call, objectQuery.outcome (.when identityField none none) = .emit call) ∧
      ¬ Params.BindsOnly objectQuery.builder.params
        (objectQuery.apply (.when identityField none none)).builder.params
        [identityField.column] := by
  have hword : Text.isWordText identityField.column = true := by decide
  have halias : ∀ a ∈ identityField.tableAlias, a = "" ∨ Text.isWordText a = true := nofun
  have hemit : objectQuery.outcome (.when identityField none none) =
      .emit (.condition "id = @id" [.object [("x", .string "1")]]) := by rfl
  obtain ⟨bag, x, hbag, hx, hiff⟩ :=
    (bindsOnly_apply_iff objectQuery identityField hword halias).1 none none _ hemit
  have hvalue : x = Value.object [("x", .string "1")] := by
    obtain rfl := Option.some.inj hbag
    exact (Option.some.inj hx).symm
  subst hvalue
  refine ⟨hword, halias, ⟨_, hemit⟩, fun h => ?_⟩
  -- The value is an object, and its field is not named after the column.
  rcases hiff.1 h with hobject | ⟨hnames, -⟩
  · exact nomatch hobject _ List.mem_cons_self
  · exact absurd (hnames "x" (by decide)) (by decide)

end Query

end SqlAssembly
