import SqlAssembly.Proofs.MomentText
import SqlAssembly.Proofs.SharedPlaceholders

/-! # What a pair of bounds binds

The two elements that a request offers for the bounds of a field are coerced to the type of the
field, made values again and bound, the first to the name of the column followed by 1 and the second
to that followed by 2.  A date and time is bound as a text, which stands for the same instant unless
a leap second of it is in the midst of a minute; a number, a truth value or a text is bound as the
value of what the element is worth.

A column that comes with a placeholder of its own, in an alias, makes more placeholders than there
are bounds.  Then nothing is bound.

* `Value.Tells`            a value is the text of a reading of an instant
* `FieldType.Carries`      what is bound for an element of the request
* `Query.BindsBounds`      the effect of a pair of bounds that are bound
* `Query.bindsBounds_of_outcome_between`   which bounds are bound, and when none are -/

namespace SqlAssembly

open Placeholder

/-! ## Texts of instants -/

/-- Whether a value is the text of a reading of the instant `m`.  If the year and the offset of the
    reading can be written, the text is in the strict form and is read as the settled reading, which
    is that instant if a leap second of it is behind the last second of a minute, and only then. -/
structure Value.Tells (bound : Value) (reading m : Moment) : Prop where
  eq_text : bound = .text reading.text
  toUtc_eq : reading.toUtc = m.toUtc
  readRfc3339?_eq : reading.clock.date.HasPlainYear → reading.offset % 60 = 0 →
    Moment.readRfc3339? reading.text.toList = some reading.settled
  read?_eq : reading.clock.date.HasPlainYear → reading.offset % 60 = 0 →
    Moment.read? reading.text = some reading.settled
  toUtc_settled_iff : reading.settled.toUtc = m.toUtc ↔ reading.clock.IsRegular

theorem Value.tells_text {reading m : Moment} (h : reading.toUtc = m.toUtc) :
    Tells (.text reading.text) reading m where
  eq_text := rfl
  toUtc_eq := h
  readRfc3339?_eq := Moment.readRfc3339?_text
  read?_eq := Moment.read?_text
  toUtc_settled_iff := h ▸ Moment.toUtc_settled_iff

/-! ## What is bound for an element -/

namespace FieldType

/-- The types of bounds that come through: moments as texts, and the scalars whose values are no
    moments as they are. -/
def isCarried : FieldType → Bool
  | int _ | binary32 | binary64 | bool | text | moment | utcMoment | comparison | enumeration _ =>
    true
  | _ => false

/-- Whether `bound` is what an element of the request is bound as: for a moment its text, at
    universal time if the type says so, and else the value of what the element is worth. -/
def Carries : FieldType → (element bound : Value) → Prop
  | moment, element, bound => ∃ m, element.moment? = some m ∧ bound.Tells m m
  | utcMoment, element, bound => ∃ m, element.moment? = some m ∧ bound.Tells m.toUtc.moment m
  | t, element, bound => ∃ x, t.coerce? element = some x ∧ bound = t.embed x

variable {t : FieldType}

private theorem isScalar_of_isCarried (h : t.isCarried = true) : t.isScalar = true := by
  cases t with
  | value | json | span | list | option => cases h
  | _ => rfl

/-- An element that is worth something gives the value of that, with a text for a moment. -/
theorem carries_roundTrip_embed (h : t.isCarried = true) {element : Value} {x : t.Carrier}
    (hx : t.coerce? element = some x) : t.Carries element (t.embed x).roundTrip := by
  -- Only a moment changes on its way through the textual form.
  cases t with
  | moment => exact ⟨x, hx, Value.tells_text rfl⟩
  | utcMoment =>
    obtain ⟨m, hm, rfl⟩ := Option.map_eq_some_iff.1 hx
    exact ⟨m, hm, Value.tells_text (Moment.toUtc_moment m.toUtc)⟩
  | int w => cases w <;> exact ⟨x, hx, rfl⟩
  | binary32 | binary64 | bool | text | comparison | enumeration => exact ⟨x, hx, rfl⟩
  | clock | date | value | json | span | list | option => cases h

end FieldType

/-! ## Conditions that bind nothing -/

namespace Builder

/-- Without objects among the arguments, nothing is bound beside the placeholders. -/
private theorem bindObjects_eq_self (p : Params) {args : List Value}
    (h : ∀ v ∈ args, v.isObject = false) : bindObjects p args = p := by
  induction args with
  | nil => rfl
  | cons v vs ih =>
    rw [List.forall_mem_cons] at h
    cases v with
    | object fields => cases h.1
    | _ => exact ih h.2

/-- A condition with more placeholders than arguments, or fewer, binds nothing. -/
private theorem params_apply_condition_eq_self (b : Builder) {text : String} {args : List Value}
    (hlength : (tokens text).length ≠ args.length) (hobjects : ∀ v ∈ args, v.isObject = false) :
    (b.apply (.condition text args)).params = b.params := by
  have hpositional : isPositional text args = false := by
    simp only [isPositional, hlength, decide_false, Bool.and_false, Bool.false_and]
  show bindArgs b.params text args = b.params
  rw [bindArgs, hpositional]
  exact bindObjects_eq_self b.params hobjects

end Builder

/-! ## Bounds -/

namespace Query

/-- Whether a query comes from another by a condition with two bounds that are bound, in order, to
    the name of the column followed by 1 and by 2.  They are read from these names unless there was
    more than one entry for them. -/
structure BindsBounds (q q' : Query) (f : Field) (low high : Value) : Prop where
  eq_extend : q' = q.extend .condition (q.boundsText f)
    [("@" ++ (f.column ++ "1"), low), ("@" ++ (f.column ++ "2"), high)]
  get?_low : q.builder.params.IsSingleAt (f.column ++ "1") →
    q'.builder.params.get? (f.column ++ "1") = some low
  get?_high : q.builder.params.IsSingleAt (f.column ++ "2") →
    q'.builder.params.get? (f.column ++ "2") = some high

variable {q : Query} {f : Field} {low high : Value}

/-- The two parameters have different names, so that the second does not take the place of the
    first. -/
theorem bindsBounds_extend (hcolumn : Text.isWordText f.column = true) :
    q.BindsBounds (q.extend .condition (q.boundsText f)
      [("@" ++ (f.column ++ "1"), low), ("@" ++ (f.column ++ "2"), high)]) f low high := by
  -- Both names are words, and cleaning leaves them as they are.
  have hlow : clean (f.column ++ "1") = f.column ++ "1" :=
    clean_of_isWordText (isWordText_append hcolumn (by decide))
  have hhigh : clean (f.column ++ "2") = f.column ++ "2" :=
    clean_of_isWordText (isWordText_append hcolumn (by decide))
  have hne : clean (f.column ++ "1") ≠ clean (f.column ++ "2") := by
    rw [hlow, hhigh]
    exact append_one_ne_append_two f.column f.column
  -- The low bound is bound first, the high one behind it.
  have hparams : (q.extend .condition (q.boundsText f)
      [("@" ++ (f.column ++ "1"), low), ("@" ++ (f.column ++ "2"), high)]).builder.params =
        (q.builder.params.add (f.column ++ "1") low).add (f.column ++ "2") high := by
    show (q.builder.params.add _ low).add _ high = _
    simp only [Params.add, clean_at, hlow, hhigh]
  refine ⟨rfl, fun hsingle => ?_, fun hsingle => ?_⟩
  · -- the high bound is added under another name
    rw [hparams, Params.get?_add_of_ne _ hne.symm, Params.get?_add_self hsingle]
  · rw [hparams, Params.get?_add_self (Params.isSingleAt_add_of_ne hsingle hne low)]

/-- Without a placeholder in the column as it stands, both bounds are bound; with one, none is. -/
private theorem apply_betweenBounds_of_tokens (hcolumn : Text.isWordText f.column = true)
    (hlow : low.isObject = false) (hhigh : high.isObject = false) :
    (tokens (q.fieldSql f) = [] → q.builder.apply (q.betweenBounds f low high) =
      q.builder.extend .condition (q.boundsText f) (boundsBindings f low high)) ∧
    (tokens (q.fieldSql f) ≠ [] →
      (q.builder.apply (q.betweenBounds f low high)).params = q.builder.params) := by
  refine ⟨fun htokens => apply_betweenBounds_eq_extend_of_tokens _ hcolumn htokens hlow hhigh,
    fun htokens => Builder.params_apply_condition_eq_self _ ?_ ?_⟩
  · -- There are the two placeholders of the bounds and at least one more.
    have hpos := List.length_pos_iff.2 htokens
    show (tokens (q.boundsText f)).length ≠ 2
    rw [tokens_boundsText_eq q hcolumn, List.length_append, List.length_cons, List.length_singleton]
    omega
  · simp only [List.forall_mem_cons, isObject_roundTrip]
    exact ⟨hlow, hhigh, nofun⟩

variable {accept : Option (List f.type.Carrier → Bool)} {call : Builder.Call}

/-- Bounds that the request offers and `accept` takes are put in a condition. -/
private theorem outcome_between_of_offersPair {bag : Bag} {low high : f.type.Carrier}
    (hbag : q.bag = some bag) (hname : f.name ≠ "") (hcolumn : Text.isWordText f.column = true)
    (hoffers : bag.OffersPair f.name f.type low high)
    (haccept : accept.all (fun p => p [low, high]) = true) :
    q.outcome (.between f accept) =
      .emit (q.betweenBounds f (f.type.embed low) (f.type.embed high)) := by
  -- The look-up finds both elements, as the request offers them.
  have hbounds : bounds? bag f accept = some (low, high) :=
    (bounds?_eq_some_iff_offers rfl).2 ⟨hoffers, haccept⟩
  rw [outcome_between, forField_forBag (isIncomplete_eq_false hname hcolumn) hbag, hbounds]
  rfl

/-- **Bounds are bound in order.**  Bounds that are put in a condition are the two elements of an
    array in the request.  Without a placeholder in the column as it stands, as under an alias
    without an at sign, both are bound in order: a date and time to a text of it, which is read as
    the same instant but for a leap second in the midst of a minute, and anything else to the value
    of what it is worth.  With such a placeholder nothing is bound. -/
theorem bindsBounds_of_outcome_between (hcolumn : Text.isWordText f.column = true)
    (htype : f.type.isCarried = true) (h : q.outcome (.between f accept) = .emit call) :
    ∃ bag v w, q.bag = some bag ∧ bag.value? f.name = some (.array [v, w]) ∧
      (tokens (q.fieldSql f) = [] → ∃ low high, f.type.Carries v low ∧ f.type.Carries w high ∧
        q.BindsBounds (q.apply (.between f accept)) f low high) ∧
      (tokens (q.fieldSql f) ≠ [] →
        (q.apply (.between f accept)).builder.params = q.builder.params) ∧
      ((∀ a ∈ f.tableAlias, '@' ∉ a.toList) → tokens (q.fieldSql f) = []) := by
  -- The array is looked up a second time after the test of its length.
  obtain ⟨bag, low, high, hbag, harray, rfl⟩ := exists_of_outcome_between h
  obtain ⟨v, w, hvalue, hv, hw⟩ := Bag.fetch?_list_eq_some_iff.1 harray
  have hobject := FieldType.isObject_embed_of_isScalar (FieldType.isScalar_of_isCarried htype)
  obtain ⟨hbound, hfree⟩ := apply_betweenBounds_of_tokens (q := q) hcolumn (hobject low)
    (hobject high)
  have hbuilder := builder_apply_of_emit h
  refine ⟨bag, v, w, hbag, hvalue, fun htokens => ?_, fun htokens => ?_, fun halias => ?_⟩
  · refine ⟨_, _, FieldType.carries_roundTrip_embed htype hv,
      FieldType.carries_roundTrip_embed htype hw, ?_⟩
    -- The condition is all that the call adds.
    have happly : q.apply (.between f accept) = q.extend .condition (q.boundsText f)
        (boundsBindings f (f.type.embed low) (f.type.embed high)) := by
      rw [apply, h, Query.accept, hbound htokens, extend]
    rw [happly]
    exact bindsBounds_extend hcolumn
  · rw [hbuilder, hfree htokens]
  · exact tokens_of_not_mem (not_mem_columnSql (by decide) (by decide)
      (not_mem_of_isWordText hcolumn isWord_at) halias)

/-- A field with dates and times at universal time, under an alias. -/
def createdField (aliasName : String) : Field :=
  (Field.new ⟨"orders"⟩ "created" "created" .utcMoment).withAlias aliasName

/-- New year on a clock two hours ahead of universal time. -/
def newYear : Moment := ⟨Clock.midnight ⟨19723⟩, 7200, by decide, by decide⟩

/-- The beginning of February at universal time. -/
def february : Moment := (Clock.midnight ⟨19754⟩).atUtc

/-- A query for a request with two bounds: a date and time, and the text of a day. -/
def periodQuery : Query :=
  .ofBag ⟨"orders"⟩ (.ofList
    [("Created", .array [.moment newYear, .text "2024/02/01"])])

/-- The day is read as its beginning at universal time. -/
private theorem read?_february : Moment.read? "2024/02/01" = some february := by decide +kernel

private theorem offersPair_periodQuery :
    (Bag.ofList [("Created", .array [.moment newYear, .text "2024/02/01"])]).OffersPair
      "created" .utcMoment newYear.toUtc february.toUtc :=
  ⟨_, _, rfl, rfl, congrArg (Option.map Moment.toUtc) read?_february⟩

/-- The bounds of the request are bound in order, at universal time. -/
theorem bindsBounds_periodQuery :
    (Text.isWordText (createdField "o").column = true ∧
      (createdField "o").type.isCarried = true ∧
      ∃ call, periodQuery.outcome (.between (createdField "o") none) = .emit call) ∧
    periodQuery.BindsBounds (periodQuery.apply (.between (createdField "o") none)) (createdField "o")
      (.text "2023-12-31T22:00:00+00:00") (.text "2024-02-01T00:00:00+00:00") := by
  have hcolumn : Text.isWordText (createdField "o").column = true := by decide
  have houtcome : periodQuery.outcome (.between (createdField "o") none) = _ :=
    outcome_between_of_offersPair rfl (by decide) hcolumn offersPair_periodQuery rfl
  refine ⟨⟨hcolumn, rfl, _, houtcome⟩, ?_⟩
  obtain ⟨bag, v, w, hbag, hvalue, hbound, -, halias⟩ :=
    bindsBounds_of_outcome_between hcolumn rfl houtcome
  obtain rfl := Option.some.inj hbag
  obtain ⟨rfl, rfl⟩ : v = .moment newYear ∧ w = .text "2024/02/01" := by
    cases hvalue
    exact ⟨rfl, rfl⟩
  have htokens : tokens (periodQuery.fieldSql (createdField "o")) = [] := by
    refine halias fun a ha => ?_
    cases ha
    decide
  -- Both bounds are texts at universal time, whatever the clock of the request was.
  obtain ⟨low, high, ⟨m, hm, hlow⟩, ⟨n, hn, hhigh⟩, hbinds⟩ := hbound htokens
  obtain rfl := Option.some.inj hm
  obtain rfl := Option.some.inj (read?_february.symm.trans hn)
  have hlowText : newYear.toUtc.moment.text = "2023-12-31T22:00:00+00:00" := by decide +kernel
  have hhighText : february.toUtc.moment.text = "2024-02-01T00:00:00+00:00" := by decide +kernel
  rw [hlow.eq_text, hhigh.eq_text, hlowText, hhighText] at hbinds
  exact hbinds

/-- A query for a request with a leap second behind noon for the first bound. -/
def noonQuery : Query :=
  .ofBag ⟨"orders"⟩ (.ofList
    [("Created", .array [.moment Moment.noonLeapSecond, .moment february])])

private theorem offersPair_noonQuery :
    (Bag.ofList [("Created", .array [.moment Moment.noonLeapSecond, .moment february])]).OffersPair
      "created" .utcMoment Moment.noonLeapSecond.toUtc february.toUtc :=
  ⟨_, _, rfl, rfl, rfl⟩

/-- Under an alias with a placeholder nothing is bound, though the condition is there.  Under any
    other alias a leap second behind noon is bound to a text that is read as another instant. -/
theorem get?_apply_between_lost :
    (Text.isWordText (createdField "@a").column = true ∧
      (∃ call, periodQuery.outcome (.between (createdField "@a") none) = .emit call) ∧
      (periodQuery.apply (.between (createdField "@a") none)).builder.params.get? "created1" =
        none ∧
      (periodQuery.apply (.between (createdField "@a") none)).builder.params.get? "created2" =
        none) ∧
    (Text.isWordText (createdField "o").column = true ∧
      (∃ call, noonQuery.outcome (.between (createdField "o") none) = .emit call) ∧
      (noonQuery.apply (.between (createdField "o") none)).builder.params.get? "created1" =
        some (.text "1970-01-01T12:00:01.500+00:00") ∧
      ∃ read, Moment.read? "1970-01-01T12:00:01.500+00:00" = some read ∧
        read.toUtc ≠ Moment.noonLeapSecond.toUtc) := by
  refine ⟨?_, ?_⟩
  · have hcolumn : Text.isWordText (createdField "@a").column = true := by decide
    have houtcome : periodQuery.outcome (.between (createdField "@a") none) = _ :=
      outcome_between_of_offersPair rfl (by decide) hcolumn offersPair_periodQuery rfl
    -- The placeholder of the alias is one more than there are values for.
    have hparams : (periodQuery.apply (.between (createdField "@a") none)).builder.params =
        periodQuery.builder.params := by
      rw [builder_apply_of_emit houtcome]
      exact (apply_betweenBounds_of_tokens hcolumn rfl rfl).2 (by decide)
    refine ⟨hcolumn, ⟨_, houtcome⟩, ?_, ?_⟩
    · rw [hparams]
      rfl
    · rw [hparams]
      rfl
  · have hcolumn : Text.isWordText (createdField "o").column = true := by decide
    have houtcome : noonQuery.outcome (.between (createdField "o") none) = _ :=
      outcome_between_of_offersPair rfl (by decide) hcolumn offersPair_noonQuery rfl
    -- Both bounds are bound, the first one to a text in the second behind noon.
    have hbuilder : (noonQuery.apply (.between (createdField "o") none)).builder =
        noonQuery.builder.extend .condition (noonQuery.boundsText (createdField "o"))
          (boundsBindings (createdField "o") (.moment Moment.noonLeapSecond.toUtc.moment)
            (.moment february.toUtc.moment)) := by
      rw [builder_apply_of_emit houtcome]
      exact (apply_betweenBounds_of_tokens hcolumn rfl rfl).1 (by decide)
    have htext : Moment.noonLeapSecond.text = "1970-01-01T12:00:01.500+00:00" := by decide +kernel
    have hread := Moment.read?_text (m := Moment.noonLeapSecond) (by decide) rfl
    refine ⟨hcolumn, ⟨_, houtcome⟩, ?_, _, htext ▸ hread, ?_⟩
    · rw [hbuilder, ← htext]
      exact (bindsBounds_extend hcolumn).get?_low (Nat.zero_le 1)
    · exact Moment.toUtc_settled_iff.not.2 (by decide)

end Query

end SqlAssembly
