import SqlAssembly.Proofs.CallEffects

/-! # Looking into the request

Everything a query learns from its request comes from `Bag.fetch?`: whether there is a value, and
which element of the type asked for it is worth.

* `Bag.get_eq_getD`                 reading with a default
* `Bag.orderText`, `Bag.orderFlag`  the order of the request, read with its defaults
* `Query.lookup?_eq_some_iff`       what a comparison and an assignment look up
* `Query.bounds?`, `Query.outcome_between`   the bounds that `between` looks up, and its outcome
* `Query.exists_of_outcome_when`, `Query.exists_of_outcome_between`   what was looked up if the
                                    builder is asked for something -/

namespace SqlAssembly

namespace Bag

variable (bag : Bag) (t : FieldType) (key : String)

/-- Reading with a default gives the element that the value is worth, else the default. -/
theorem get_eq_getD (default : t.Carrier) :
    bag.get t key default = (bag.fetch? t key).getD default := by
  rw [get, parse, fetch?]
  cases bag.value? key with
  | none => rfl
  | some v =>
    simp only [FieldType.parse]
    -- A null and a value of no worth give the default alike.
    cases v.isNull with
    | true => rfl
    | false => cases t.coerce? v <;> rfl

/-- Where the same is fetched, the same is read. -/
theorem get_eq_of_fetch?_eq {bag bag' : Bag} {t : FieldType} {key : String} (default : t.Carrier)
    (h : bag.fetch? t key = bag'.fetch? t key) :
    bag.get t key default = bag'.get t key default := by
  rw [get_eq_getD, get_eq_getD, h]

/-- What is fetched is what the value is worth. -/
private theorem bind_coerce?_of_fetch? {x : t.Carrier} (h : bag.fetch? t key = some x) :
    (bag.value? key).bind t.coerce? = some x := by
  rw [fetch?] at h
  cases hvalue : bag.value? key with
  | none =>
    rw [hvalue] at h
    exact nomatch h
  | some v =>
    -- A null is not fetched, so the value was no null.
    simp only [hvalue, Option.ite_none_left_eq_some] at h
    exact h.2

/-- The text of the order of a request, empty without one. -/
def orderText : String := bag.get .text orderByKey ""

/-- Whether a request asks for ascending order. -/
def orderFlag : Bool := bag.get .bool ascendingKey false

/-- Without a text the order is empty. -/
theorem fetch?_isSome_of_orderText_ne (h : bag.orderText ≠ "") :
    (bag.fetch? .text orderByKey).isSome = true := by
  have horder : bag.orderText = (bag.fetch? .text orderByKey).getD "" :=
    bag.get_eq_getD .text orderByKey ""
  cases hfetch : bag.fetch? .text orderByKey with
  | none =>
    rw [hfetch] at horder
    exact absurd horder h
  | some s => rfl

end Bag

namespace Query

variable (bag : Bag)

/-- Whether an element is taken: by `accept`, or else if it is no empty sequence. -/
def Accepts (t : FieldType) (accept : Option (t.Carrier → Bool)) (x : t.Carrier) : Prop :=
  match accept with
  | some p => p x = true
  | none => ∀ n, t.seqLength? x = some n → 0 < n

/-- A look-up gives the element that the value is worth, if that is taken. -/
theorem lookup?_eq_some_iff {t : FieldType} {key : String} {accept : Option (t.Carrier → Bool)}
    {x : t.Carrier} :
    lookup? bag t key accept = some x ↔ bag.fetch? t key = some x ∧ Accepts t accept x := by
  cases hfetch : bag.fetch? t key with
  -- Without a value there is nothing to be taken.
  | none => cases accept <;> simp [lookup?, Bag.isContainsWith, Bag.isContains, hfetch]
  | some y =>
    -- The value is looked up a second time and is worth the same.
    have hvalue := bag.bind_coerce?_of_fetch? t key hfetch
    cases accept with
    | some p =>
      simp only [lookup?, Bag.isContainsWith, hfetch, hvalue, Option.any_some, Accepts,
        Option.ite_none_right_eq_some, Option.some.injEq]
      constructor
      · rintro ⟨hp, rfl⟩
        exact ⟨rfl, hp⟩
      · rintro ⟨rfl, hp⟩
        exact ⟨hp, rfl⟩
    | none =>
      -- The test of the length asks for at least one element.
      have hlength : ∀ n, Bag.lengthMatches n (-1) = true ↔ 0 < n := fun n => by
        simp [Bag.lengthMatches]
      simp only [lookup?, Bag.isContains, hfetch, hvalue, Option.all_eq_true, hlength, Accepts,
        Option.ite_none_right_eq_some, Option.some.injEq]
      constructor
      · rintro ⟨hn, rfl⟩
        exact ⟨rfl, fun n h => hn n h⟩
      · rintro ⟨rfl, hn⟩
        exact ⟨fun n h => hn n h, rfl⟩

/-- The two elements that `between` looks up: the request has exactly two, and `accept` takes
    them. -/
def bounds? (f : Field) (accept : Option (List f.type.Carrier → Bool)) :
    Option (f.type.Carrier × f.type.Carrier) :=
  match (bag.fetch? (.list f.type) f.name : Option (List f.type.Carrier)) with
  | some [low, high] => if accept.all fun p => p [low, high] then some (low, high) else none
  | _ => none

theorem outcome_between (q : Query) (f : Field) (accept : Option (List f.type.Carrier → Bool)) :
    q.outcome (.between f accept) =
      .forField f "between" (.forBag q "between" fun bag =>
        .forSome (bounds? bag f accept) fun b =>
          .emit (q.betweenBounds f (f.type.embed b.1) (f.type.embed b.2))) := by
  refine congrArg (Outcome.forField f "between") (congrArg (Outcome.forBag q "between") ?_)
  funext bag
  -- Here the test asks for exactly two elements.
  have hlength : ∀ n : Nat, Bag.lengthMatches n 2 = decide (n = 2) := fun n => by
    simp only [Bag.lengthMatches]
    rw [if_neg (by decide), if_neg (by decide)]
    norm_cast
  simp only [Bag.isContainsWith, Bag.isContains, Bag.getArray?, bounds?, FieldType.seqLength?,
    Option.all_some, hlength]
  -- Only a list of exactly two elements passes the test of the length.
  rcases (bag.fetch? (.list f.type) f.name : Option (List f.type.Carrier)) with
    _ | _ | ⟨low, _ | ⟨high, _ | ⟨x, xs⟩⟩⟩
  · cases accept <;> rfl
  · cases accept <;> rfl
  · cases accept <;> rfl
  · cases accept with
    | none => rfl
    | some p =>
      show (if (decide (2 = 2) && p [low, high]) = true then _ else _) = _
      rw [decide_eq_true rfl, Bool.true_and]
      simp only [Option.all_some]
      split <;> rfl
  · have hne : decide (List.length (low :: high :: x :: xs) = 2) = false := by
      rw [decide_eq_false_iff_not, List.length_cons, List.length_cons, List.length_cons]
      omega
    cases accept with
    | none =>
      show (if decide (List.length (low :: high :: x :: xs) = 2) = true then _ else _) = _
      rw [hne]
      rfl
    | some p =>
      show (if (decide (List.length (low :: high :: x :: xs) = 2) && p (low :: high :: x :: xs)) =
        true then _ else _) = _
      rw [hne, Bool.false_and]
      rfl

/-- A comparison that the builder is asked for has a value of the request to bind. -/
theorem exists_of_outcome_when {q : Query} {f : Field} {accept : Option (f.type.Carrier → Bool)}
    {operator : Option Comparison} {call : Builder.Call}
    (h : q.outcome (.when f accept operator) = .emit call) :
    ∃ bag x, q.bag = some bag ∧ bag.fetch? f.type f.name = some x ∧
      call = compare (q.fieldSql f) f.column (operator.getD (q.requestedOperator f.column))
        (f.type.embed x) := by
  obtain ⟨bag, hbag, h⟩ := Outcome.exists_bag_of_forBag (Outcome.eq_emit_of_forField h)
  obtain ⟨x, hx, h⟩ := Outcome.exists_of_forSome h
  exact ⟨bag, x, hbag, ((lookup?_eq_some_iff bag).1 hx).1, (Outcome.emit.inj h).symm⟩

/-- Bounds that the builder is asked for are the two values of the request. -/
theorem exists_of_outcome_between {q : Query} {f : Field}
    {accept : Option (List f.type.Carrier → Bool)} {call : Builder.Call}
    (h : q.outcome (.between f accept) = .emit call) :
    ∃ bag low high, q.bag = some bag ∧ bag.getArray? f.type f.name = some [low, high] ∧
      call = q.betweenBounds f (f.type.embed low) (f.type.embed high) := by
  rw [outcome_between] at h
  obtain ⟨bag, hbag, h⟩ := Outcome.exists_bag_of_forBag (Outcome.eq_emit_of_forField h)
  obtain ⟨⟨low, high⟩, hbounds, h⟩ := Outcome.exists_of_forSome h
  refine ⟨bag, low, high, hbag, ?_, (Outcome.emit.inj h).symm⟩
  rw [bounds?] at hbounds
  split at hbounds
  · -- What was put in the condition is what was fetched.
    rename_i low' high' hfetch
    obtain ⟨rfl, rfl⟩ := Prod.mk.inj (Option.some.inj (Option.ite_none_right_eq_some.1 hbounds).2)
    exact hfetch
  · exact nomatch hbounds

/-- The outcome for an order that the request has. -/
def orderFor (requested : String) (isAscending : Bool) : Outcome :=
  match Ident.read (Text.trim requested) with
  | .ok ident => .emit (.orderBy ident.sql (.ofAscending isAscending))
  | .error fault => .dropOrder requested (.identifier (Text.trim requested) fault)

/-- An order is there if a text is. -/
theorem requestedOrder_eq :
    requestedOrder bag =
      if (bag.fetch? .text Bag.orderByKey).isSome then orderFor bag.orderText bag.orderFlag
      else .skip := by
  -- A text has no length that would have to be positive.
  have hpresent : bag.isContains .text Bag.orderByKey (-1) =
      (bag.fetch? .text Bag.orderByKey).isSome := by
    rw [Bag.isContains]
    cases bag.fetch? .text Bag.orderByKey with
    | none => rfl
    | some s => rfl
  unfold requestedOrder orderFor Bag.orderText Bag.orderFlag
  dsimp only
  cases Ident.read (Text.trim (bag.get .text Bag.orderByKey "" : String)) with
  | ok ident =>
    dsimp only
    rw [hpresent]
  | error fault =>
    dsimp only
    rw [hpresent]

end Query

end SqlAssembly
