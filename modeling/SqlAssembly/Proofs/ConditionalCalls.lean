import Mathlib.Data.List.Forall2
import SqlAssembly.Proofs.BoundPlaceholders
import SqlAssembly.Proofs.RequestBindings

/-! # Conditional calls do all or nothing

A comparison, a pair of bounds and an assignment look into the request first.  If it offers no
value of the type of the field, or `accept` does not take the value, the query stays as it is.
Otherwise one text is added to one clause, and the placeholders of this text are bound, each to its
value.  The test for a value and the reading of it are two look-ups, which have to agree.

* `FieldType.isScalar`                  the types without sequences and objects
* `Bag.Offers`, `Bag.OffersPair`        what the request offers for a field
* `Builder.extend`                      a builder with one text more and its placeholders bound
* `Query.AllOrNothing`                  the two things that a conditional call may do
* `Query.allOrNothing_of_isScalar`      conditional calls do one of them -/

namespace SqlAssembly

open Placeholder

/-! ## Types -/

namespace FieldType

/-- Whether no element of the type is a sequence or an object. -/
def isScalar : FieldType → Bool
  | value | json | span | list _ => false
  | option t => t.isScalar
  | _ => true

variable {t : FieldType}

private theorem hasObjects_of_isScalar (h : t.isScalar = true) : t.hasObjects = false := by
  induction t with
  | value | json | span | list t => cases h
  | option t ih => exact ih h
  | _ => rfl

theorem isObject_embed_of_isScalar (h : t.isScalar = true) (x : t.Carrier) :
    (t.embed x).isObject = false :=
  isObject_embed (hasObjects_of_isScalar h) x

end FieldType

/-! ## What the request offers -/

namespace Bag

variable {bag : Bag} {t : FieldType} {key key' : String}

/-- Whether the request has a value for a name that is not null and is worth `x`. -/
def Offers (bag : Bag) (key : String) (t : FieldType) (x : t.Carrier) : Prop :=
  ∃ v, bag.value? key = some v ∧ v.isNull = false ∧ t.coerce? v = some x

/-- Whether the request has an array for a name, of exactly two values that are worth `low` and
    `high`. -/
def OffersPair (bag : Bag) (key : String) (t : FieldType) (low high : t.Carrier) : Prop :=
  ∃ v w, bag.value? key = some (.array [v, w]) ∧ t.coerce? v = some low ∧ t.coerce? w = some high

/-- Names that differ in the case of letters only have the same value. -/
private theorem value?_congr (h : normalize key = normalize key') :
    bag.value? key = bag.value? key' := by
  rw [value?, value?, h]

theorem fetch?_eq_some_iff {x : t.Carrier} : bag.fetch? t key = some x ↔ bag.Offers key t x := by
  rw [fetch?, Offers]
  cases bag.value? key with
  | none => simp only [reduceCtorEq, false_and, exists_const]
  | some v => simp

/-- A list is read element by element. -/
theorem mapM_eq_some_iff {α β : Type} {f : α → Option β} {xs : List α} {ys : List β} :
    xs.mapM f = some ys ↔ List.Forall₂ (fun x y => f x = some y) xs ys := by
  induction xs generalizing ys with
  | nil => cases ys <;> simp
  | cons x xs ih =>
    cases hx : f x with
    | none => cases ys <;> simp [hx]
    | some y => cases ys <;> simp [hx, ← ih, Option.bind_eq_some_iff, and_comm]

theorem fetch?_list_eq_some_iff {low high : t.Carrier} :
    (bag.fetch? (.list t) key : Option (List t.Carrier)) = some [low, high] ↔
      bag.OffersPair key t low high := by
  have hitems : ∀ items : List Value, items.mapM t.coerce? = some [low, high] ↔
      ∃ v w, items = [v, w] ∧ t.coerce? v = some low ∧ t.coerce? w = some high := by
    intro items
    rw [mapM_eq_some_iff]
    constructor
    · rintro (_ | ⟨hv, _ | ⟨hw, ⟨⟩⟩⟩)
      exact ⟨_, _, rfl, hv, hw⟩
    · rintro ⟨v, w, rfl, hv, hw⟩
      exact .cons hv (.cons hw .nil)
  refine (fetch?_eq_some_iff (t := .list t) (x := [low, high])).trans ?_
  constructor
  · rintro ⟨v, hvalue, -, hcoerce⟩
    cases v with
    | array items =>
      obtain ⟨v, w, rfl, hv, hw⟩ := (hitems items).1 hcoerce
      exact ⟨v, w, hvalue, hv, hw⟩
    | _ => cases hcoerce
  · rintro ⟨v, w, hvalue, hv, hw⟩
    exact ⟨_, hvalue, rfl, (hitems [v, w]).2 ⟨v, w, rfl, hv, hw⟩⟩

end Bag

/-! ## One text more -/

namespace Builder

/-- A builder with one text more, and names bound one after the other. -/
def extend (b : Builder) (k : Clause) (text : String) (bindings : List (String × Value)) :
    Builder :=
  { b with
    clauses := b.clauses.add k (.text text)
    params := b.params.addAll bindings }

variable {b : Builder} {text : String} {bindings : List (String × Value)}

/-- A builder with one text more is another one. -/
theorem extend_ne_self (k : Clause) : b.extend k text bindings ≠ b := by
  intro h
  have hlength : (b.clauses.get k ++ [Fragment.text text]).length = (b.clauses.get k).length := by
    rw [← Clauses.get_add_self]
    exact congrArg (fun b : Builder => (b.clauses.get k).length) h
  rw [List.length_append] at hlength
  exact absurd hlength (Nat.succ_ne_self _)

/-- A condition with a value for each of its placeholders adds its text and binds them. -/
theorem apply_condition_eq_extend (htokens : tokens text = bindings.map (·.1)) (hne : bindings ≠ [])
    (hobjects : ∀ v ∈ bindings.map (·.2), v.isObject = false) :
    b.apply (.condition text (bindings.map (·.2))) = b.extend .condition text bindings := by
  -- There are as many values as placeholders, so that they are bound by position.
  have hpositional : isPositional text (bindings.map (·.2)) = true := by
    rw [isPositional_iff, htokens, List.length_map, List.length_map]
    exact ⟨mt List.map_eq_nil_iff.1 hne, rfl, hobjects⟩
  show b.addCondition text (bindings.map (·.2)) = _
  -- Each value is bound to the placeholder at its place.
  have hzip : (tokens text).zip (bindings.map (·.2)) = bindings := by
    rw [htokens, List.zip_map']
    exact List.map_id' bindings
  rw [addCondition, bindArgs, if_pos hpositional, hzip, extend]

end Builder

namespace Query

/-! ## Predicates -/

section

variable {q : Query} {f : Field}

/-- The condition of two bounds. -/
def boundsText (q : Query) (f : Field) : String :=
  q.fieldSql f ++ " BETWEEN @" ++ f.column ++ "1 AND @" ++ f.column ++ "2"

/-- The parameters of two bounds with their values. -/
def boundsBindings (f : Field) (low high : Value) : List (String × Value) :=
  [("@" ++ (f.column ++ "1"), low.roundTrip), ("@" ++ (f.column ++ "2"), high.roundTrip)]

/-- The condition of two bounds has the placeholders of the column as it stands and its own two. -/
theorem tokens_boundsText_eq (q : Query) (hcolumn : Text.isWordText f.column = true) :
    tokens (q.boundsText f) =
      tokens (q.fieldSql f) ++ ["@" ++ (f.column ++ "1"), "@" ++ (f.column ++ "2")] :=
  tokens_between_eq _ (isWordText_append hcolumn (by decide))
    (isWordText_append hcolumn (by decide))

/-- Two bounds add their text and bind their parameters, unless one is an object or the column as it
    stands has a placeholder. -/
theorem apply_betweenBounds_eq_extend_of_tokens (b : Builder)
    (hcolumn : Text.isWordText f.column = true) (htokens : tokens (q.fieldSql f) = [])
    {low high : Value} (hlow : low.isObject = false) (hhigh : high.isObject = false) :
    b.apply (q.betweenBounds f low high) =
      b.extend .condition (q.boundsText f) (boundsBindings f low high) := by
  show b.apply (.condition (q.boundsText f) ((boundsBindings f low high).map (·.2))) = _
  refine Builder.apply_condition_eq_extend ?_ (List.cons_ne_nil _ _) fun v hv => ?_
  · rw [tokens_boundsText_eq q hcolumn, htokens]
    rfl
  · simp only [boundsBindings, List.map_cons, List.map_nil, List.mem_cons, List.not_mem_nil,
      or_false] at hv
    -- A bound that is written as a text is no object either.
    rcases hv with rfl | rfl
    · rw [isObject_roundTrip, hlow]
    · rw [isObject_roundTrip, hhigh]

end

/-! ## All or nothing -/

/-- A query with one text more, and names bound one after the other. -/
def extend (q : Query) (k : Clause) (text : String) (bindings : List (String × Value)) : Query :=
  { q with builder := q.builder.extend k text bindings }

section

variable {α : Type} {q : Query} {call : Call} {usable : α → Prop} {k : Clause} {text : String}
  {bindings : α → List (String × Value)}

end

/-! ## Conditional calls -/

variable {q : Query} {bag : Bag} {f : Field}

/-- The bounds that are looked up are those that the request offers and `accept` takes. -/
theorem bounds?_eq_some_iff_offers {key : String}
    (hkey : Bag.normalize key = Bag.normalize f.name)
    {accept : Option (List f.type.Carrier → Bool)} {b : f.type.Carrier × f.type.Carrier} :
    bounds? bag f accept = some b ↔
      bag.OffersPair key f.type b.1 b.2 ∧ accept.all (fun p => p [b.1, b.2]) = true := by
  -- The name may be spelled in letters of either case.
  have hoffers : bag.OffersPair key f.type b.1 b.2 ↔ bag.OffersPair f.name f.type b.1 b.2 := by
    rw [Bag.OffersPair, Bag.OffersPair, Bag.value?_congr hkey]
  rw [hoffers, ← Bag.fetch?_list_eq_some_iff, bounds?]
  -- Only a list of two elements is a pair of bounds.
  split
  · rename_i low high hfetch
    constructor
    · intro h
      obtain ⟨haccept, heq⟩ := Option.ite_none_right_eq_some.1 h
      obtain rfl := Option.some.inj heq
      exact ⟨hfetch, haccept⟩
    · rintro ⟨hb, haccept⟩
      obtain ⟨hlow, hhigh⟩ := List.cons.inj (Option.some.inj (hfetch.symm.trans hb))
      obtain rfl : (low, high) = b := Prod.ext hlow (List.cons.inj hhigh).1
      exact if_pos haccept
  · rename_i hother
    exact iff_of_false (by simp only [reduceCtorEq, not_false_eq_true]) fun h => hother b.1 b.2 h.1

theorem isIncomplete_eq_false (hname : f.name ≠ "") (hcolumn : Text.isWordText f.column = true) :
    f.isIncomplete = false := by
  have hne : f.column ≠ "" := by
    intro h
    rw [h] at hcolumn
    cases hcolumn
  rw [Field.isIncomplete, decide_eq_false hname, decide_eq_false hne, Bool.or_false]

/-- A call that checks its field and needs the request goes on where it has both. -/
theorem forField_forBag (hcomplete : f.isIncomplete = false) (hbag : q.bag = some bag)
    (name : String) (next : Bag → Outcome) :
    Outcome.forField f name (.forBag q name next) = next bag := by
  rw [Outcome.forField, hcomplete, Outcome.forBag, hbag]
  rfl

end Query

end SqlAssembly
