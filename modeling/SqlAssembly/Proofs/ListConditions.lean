import SqlAssembly.Proofs.ConditionalCalls
import SqlAssembly.Proofs.LastBinding

/-! # Which value an element of a list has in the end

A condition that a field is one of several values makes a parameter for each of them, named after
the field and the place of the value.  Dots become low lines there and backticks are dropped, so
two fields may have one stem, and a field always has its own again.  The names of one condition all
differ, but a later condition with the same stem takes over those that it has values for.

* `Builder.listPlaceholder_inj`     stem and place of a parameter can be read off its name
* `Membership`                      the condition that a field is one of several values
* `Builder.KeepsLists`              whether each element has its own value in the end
* `Builder.run_memberships`         what a run of such conditions adds and binds
* `Builder.get?_run_memberships`    the value that an element has in the end -/

namespace SqlAssembly

open Placeholder

/-- What stands behind the last occurrence of a separator can be told from what stands in front. -/
private theorem eq_of_append_cons_eq {α : Type} {sep : α} {a b x y : List α} (hx : sep ∉ x)
    (hy : sep ∉ y) (h : a ++ sep :: x = b ++ sep :: y) : a = b ∧ x = y := by
  -- If the front parts differ in length, the separator of the one is behind that of the other.
  rcases List.append_eq_append_iff.1 h with ⟨c, rfl, hc⟩ | ⟨c, rfl, hc⟩
  · cases c with
    | nil => simp_all
    | cons d c =>
      obtain ⟨-, rfl⟩ := List.cons.inj hc
      exact absurd (List.mem_append_right c List.mem_cons_self) hx
  · cases c with
    | nil => simp_all
    | cons d c =>
      obtain ⟨-, rfl⟩ := List.cons.inj hc
      exact absurd (List.mem_append_right c List.mem_cons_self) hy

namespace Builder

/-! ## Names -/

variable {f g : String} {i j : Nat}

/-- The stem and the place of a parameter can be read off its name. -/
theorem listPlaceholder_inj (h : listPlaceholder f i = listPlaceholder g j) :
    listStem f = listStem g ∧ i = j := by
  have hchars : ∀ (field : String) (place : Nat), (listPlaceholder field place).toList =
      ("@".toList ++ (listStem field).toList ++ "_IN".toList) ++ '_' :: Numeral.decimal place := by
    intro field place
    simp [listPlaceholder, String.toList_append]
  -- There is no low line among the digits of the place.
  have hdigits : ∀ place, '_' ∉ Numeral.decimal place := by
    intro place hmem
    exact absurd (Numeral.isDigit_of_mem_decimal hmem) (by decide)
  have hsplit := congrArg String.toList h
  rw [hchars, hchars] at hsplit
  -- The place is what stands behind the last low line.
  obtain ⟨hfront, hplace⟩ := eq_of_append_cons_eq (hdigits i) (hdigits j) hsplit
  have hstem := List.append_cancel_left (List.append_cancel_right hfront)
  exact ⟨String.toList_inj.1 hstem, Numeral.decimal_injective hplace⟩

/-- The name of an element of a list is a word behind an at sign. -/
private theorem at_clean_listPlaceholder (h : IsDottedName f) (i : Nat) :
    "@" ++ clean (listPlaceholder f i) = listPlaceholder f i := by
  -- The at sign is followed by the stem, the middle part and the place, a word together.
  have hname : listPlaceholder f i =
      "@" ++ (listStem f ++ ("_IN_" ++ String.ofList (Numeral.decimal i))) := by
    simp only [listPlaceholder, String.append_assoc]
  rw [hname, clean_at, clean_of_isWordText (isWordText_listName h i)]

/-- Two elements share a parameter if they have one stem and one place. -/
private theorem clean_listPlaceholder_eq_iff (hf : IsDottedName f) (hg : IsDottedName g) :
    clean (listPlaceholder f i) = clean (listPlaceholder g j) ↔
      listStem f = listStem g ∧ i = j := by
  constructor
  · intro h
    apply listPlaceholder_inj
    rw [← at_clean_listPlaceholder hf, h, at_clean_listPlaceholder hg]
  · rintro ⟨hstem, rfl⟩
    rw [listPlaceholder, listPlaceholder, hstem]

end Builder

/-! ## Conditions on lists -/

/-- The condition that a field is one of several values. -/
structure Membership where
  field : String
  values : List Value

namespace Membership

/-- The call for the condition. -/
def call (m : Membership) : Builder.Call := .conditionIn m.field m.values

/-- Whether the field is made of words, and there are values, none of them an object. -/
structure IsProper (m : Membership) : Prop where
  field : IsDottedName m.field
  nonempty : m.values ≠ []
  scalar : ∀ v ∈ m.values, v.isObject = false

/-- The placeholders of the values. -/
def placeholders (m : Membership) : List String :=
  (List.range m.values.length).map (Builder.listPlaceholder m.field)

/-- The text of the condition. -/
def text (m : Membership) : String := m.field ++ " IN (" ++ ",".intercalate m.placeholders ++ ")"

/-- The placeholders with their values. -/
def bindings (m : Membership) : List (String × Value) := m.placeholders.zip m.values

/-- The value at a place, if the condition has this stem and a value there. -/
def valueAt? (stem : String) (i : Nat) (m : Membership) : Option Value :=
  if Builder.listStem m.field = stem then m.values[i]? else none

/-- Whether a value of the condition gives way to another one at its place, which the conditions
    behind it end in. -/
def GivesWay (m : Membership) (after : List Membership) : Prop :=
  ∃ (i : Nat) (v w : Value), m.values[i]? = some v ∧
    (after.filterMap (valueAt? (Builder.listStem m.field) i)).getLast? = some w ∧ w ≠ v

variable {m : Membership}

private theorem length_placeholders (m : Membership) : m.placeholders.length = m.values.length := by
  simp [placeholders]

/-- The placeholders of one condition all differ. -/
theorem nodup_placeholders (m : Membership) : m.placeholders.Nodup :=
  List.pairwise_map.2 <| List.nodup_range.imp fun hne h => hne (Builder.listPlaceholder_inj h).2

private theorem eq_of_getElem?_placeholders {i : Nat} {token : String}
    (h : m.placeholders[i]? = some token) : token = Builder.listPlaceholder m.field i := by
  rw [placeholders, List.getElem?_map, Option.map_eq_some_iff] at h
  obtain ⟨place, hplace, rfl⟩ := h
  rw [(List.getElem?_eq_some_iff.1 hplace).2.symm, List.getElem_range]

private theorem getElem?_placeholders {i : Nat} {v : Value} (h : m.values[i]? = some v) :
    m.placeholders[i]? = some (Builder.listPlaceholder m.field i) := by
  have hlt : i < m.values.length := (List.getElem?_eq_some_iff.1 h).1
  rw [placeholders, List.getElem?_map, List.getElem?_range hlt]
  rfl

theorem tokens_text (h : m.IsProper) : tokens m.text = m.placeholders :=
  Builder.tokens_listCondition h.field m.values.length

/-- The condition adds its text and binds its placeholders. -/
private theorem apply_call (h : m.IsProper) (b : Builder) :
    b.apply m.call = b.extend .condition m.text m.bindings := by
  -- There is a placeholder for each value, so zipping loses none.
  have hfst : m.bindings.map (·.1) = m.placeholders :=
    List.map_fst_zip (Nat.le_of_eq m.length_placeholders)
  have hsnd : m.bindings.map (·.2) = m.values :=
    List.map_snd_zip (Nat.le_of_eq m.length_placeholders.symm)
  have hne : m.bindings ≠ [] := by
    intro hnil
    rw [hnil] at hsnd
    exact h.nonempty hsnd.symm
  have hempty : m.values.isEmpty = false := List.isEmpty_eq_false_iff.2 h.nonempty
  -- With values the call is an ordinary condition.
  have hcall : b.apply m.call = b.apply (.condition m.text m.values) := by
    rw [call, Builder.apply_conditionIn, hempty, if_neg Bool.false_ne_true]
    rfl
  rw [hcall, ← hsnd]
  refine Builder.apply_condition_eq_extend ?_ hne ?_
  · rw [hfst, tokens_text h]
  · rw [hsnd]
    exact h.scalar

/-- To the name of a place the condition binds its value there, if it has the stem. -/
private theorem valuesAdded_bindings (h : m.IsProper) {f : String} (hf : IsDottedName f) (i : Nat) :
    Params.valuesAdded (Builder.listPlaceholder f i) m.bindings =
      (m.valueAt? (Builder.listStem f) i).toList := by
  -- By induction on the values, the last one of which has the last place.
  have hvalues : ∀ vs : List Value,
      Params.valuesAdded (Builder.listPlaceholder f i)
          (((List.range vs.length).map (Builder.listPlaceholder m.field)).zip vs) =
        (if Builder.listStem m.field = Builder.listStem f then vs[i]? else none).toList := by
    intro vs
    induction vs using List.reverseRecOn with
    | nil => simp [Params.valuesAdded]
    | append_singleton vs v ih =>
      rw [List.length_append, List.length_singleton, List.range_succ, List.map_append,
        List.zip_append (by simp), Params.valuesAdded_append, ih, List.map_singleton,
        List.zip_cons_cons, List.zip_nil_left, Params.valuesAdded_singleton]
      simp only [Builder.clean_listPlaceholder_eq_iff h.field hf]
      by_cases hstem : Builder.listStem m.field = Builder.listStem f
      · -- the new value is bound if its place is the one asked for
        by_cases hi : vs.length = i
        · simp [hstem, hi]
        · -- Another place is looked up among the values in front, or is behind all of them.
          have hlookup : (vs ++ [v])[i]? = vs[i]? := by
            by_cases hlt : i < vs.length
            · rw [List.getElem?_append_left hlt]
            · have hle : vs.length + 1 ≤ i := by omega
              rw [List.getElem?_eq_none (by simpa using hle), List.getElem?_eq_none (by omega)]
          simp [hstem, hi, hlookup]
      · simp [hstem]
  exact hvalues m.values

end Membership

/-! ## Runs -/

namespace Builder

variable {b : Builder} {ms : List Membership}

/-- Whether at the end of a run of conditions on lists the placeholder at each place of each
    condition stands for the value at this place of the same condition. -/
def KeepsLists (b : Builder) (ms : List Membership) : Prop :=
  ∀ m ∈ ms, ∀ (i : Nat) token value, m.placeholders[i]? = some token → m.values[i]? = some value →
    (b.run (ms.map Membership.call)).params.get? token = some value

/-- Conditions on lists add their texts and bind their placeholders, one after the other. -/
theorem run_memberships (hms : ∀ m ∈ ms, m.IsProper) :
    (b.run (ms.map Membership.call)).clauses.get .condition =
        b.clauses.get .condition ++ ms.map (fun m => .text m.text) ∧
      (b.run (ms.map Membership.call)).params =
        b.params.addAll (ms.flatMap Membership.bindings) := by
  induction ms generalizing b with
  | nil => exact ⟨(List.append_nil _).symm, rfl⟩
  | cons m ms ih =>
    obtain ⟨hm, hrest⟩ := List.forall_mem_cons.1 hms
    -- The first condition adds its own, and the others go on from there.
    have hrun : b.run ((m :: ms).map Membership.call) =
        (b.extend .condition m.text m.bindings).run (ms.map Membership.call) := by
      rw [← Membership.apply_call hm]
      rfl
    obtain ⟨hclauses, hparams⟩ := ih (b := b.extend .condition m.text m.bindings) hrest
    rw [hrun, hclauses, hparams]
    constructor
    · simp [extend]
    · simp [extend, Params.addAll, List.foldl_append]

/-- What is bound to the name of a place in a run of conditions. -/
private theorem valuesAdded_memberships (hms : ∀ m ∈ ms, m.IsProper) (hf : IsDottedName f)
    (i : Nat) : Params.valuesAdded (listPlaceholder f i) (ms.flatMap Membership.bindings) =
      ms.filterMap (Membership.valueAt? (listStem f) i) := by
  induction ms with
  | nil => rfl
  | cons m ms ih =>
    obtain ⟨hm, hrest⟩ := List.forall_mem_cons.1 hms
    rw [List.flatMap_cons, Params.valuesAdded_append, ih hrest,
      Membership.valuesAdded_bindings hm hf, List.filterMap_cons]
    cases m.valueAt? (listStem f) i <;> rfl

/-- An element has the value at its place in the last condition with its stem that has one there. -/
private theorem get?_listPlaceholder_run (hsingle : b.params.IsSingle) (hms : ∀ m ∈ ms, m.IsProper)
    {before after : List Membership} {m : Membership} (hsplit : ms = before ++ m :: after) {i : Nat}
    {v : Value} (hv : m.values[i]? = some v) :
    (b.run (ms.map Membership.call)).params.get? (listPlaceholder m.field i) =
      some ((after.filterMap (Membership.valueAt? (listStem m.field) i)).getLast?.getD v) := by
  have hm : m.IsProper := hms m (hsplit ▸ List.mem_append_right before List.mem_cons_self)
  -- The condition itself has a value there, so that the last one is its own or comes later.
  have hself : m.valueAt? (listStem m.field) i = some v := by
    rw [Membership.valueAt?, if_pos rfl, hv]
  rw [(run_memberships hms).2, hsingle.get?_addAll_eq_getLast?,
    valuesAdded_memberships hms hm.field, hsplit, List.filterMap_append,
    List.filterMap_cons_some hself, List.getLast?_append, List.getLast?_cons]
  rfl

/-- All elements have their own values unless a condition gives way to those behind it. -/
private theorem keepsLists_iff (hsingle : b.params.IsSingle) (hms : ∀ m ∈ ms, m.IsProper) :
    b.KeepsLists ms ↔ ∀ before m after, ms = before ++ m :: after → ¬ m.GivesWay after := by
  constructor
  · rintro h before m after hsplit ⟨i, v, w, hv, hlast, hne⟩
    have hmem : m ∈ ms := hsplit ▸ List.mem_append_right before List.mem_cons_self
    -- The value that the condition gives way to would be its own.
    have hget := h m hmem i _ v (Membership.getElem?_placeholders hv) hv
    rw [get?_listPlaceholder_run hsingle hms hsplit hv, hlast] at hget
    exact hne (Option.some.inj hget)
  · intro h m hmem i token v htoken hv
    obtain ⟨before, after, hsplit⟩ := List.append_of_mem hmem
    rw [Membership.eq_of_getElem?_placeholders htoken,
      get?_listPlaceholder_run hsingle hms hsplit hv]
    cases hlast : (after.filterMap (Membership.valueAt? (listStem m.field) i)).getLast? with
    | none => rfl
    | some w =>
      -- A later value that differs would make the condition give way.
      have hsame : w = v := by
        by_contra hne
        exact h before m after hsplit ⟨i, v, w, hv, hlast, hne⟩
      rw [hsame]
      rfl

/-- A condition gives way only to one with its stem. -/
private theorem not_givesWay_of_stems {m : Membership} {after : List Membership}
    (h : ∀ m' ∈ after, listStem m.field ≠ listStem m'.field) : ¬ m.GivesWay after := by
  rintro ⟨i, v, w, -, hlast, -⟩
  obtain ⟨m', hmem, hvalue⟩ := List.mem_filterMap.1 (List.mem_of_getLast? hlast)
  rw [Membership.valueAt?, Option.ite_none_right_eq_some] at hvalue
  exact h m' hmem hvalue.1.symm

/-- **Which value an element of a list has in the end.**  Each condition on a list adds its text,
    with a placeholder for each of its values, all of them different.  At the end of the run the
    placeholder at a place has the value there of the last condition, from its own on, that has its
    stem and a value at this place.  So all of them have their own values unless a condition gives
    way to those behind it, and none does if all stems differ. -/
theorem get?_run_memberships (hsingle : b.params.IsSingle) (hms : ∀ m ∈ ms, m.IsProper) :
    let c := b.run (ms.map Membership.call)
    c.clauses.get .condition = b.clauses.get .condition ++ ms.map (fun m => .text m.text) ∧
      (∀ m ∈ ms, m.text = m.field ++ " IN (" ++ ",".intercalate (tokens m.text) ++ ")" ∧
        tokens m.text = m.placeholders ∧ m.placeholders.length = m.values.length ∧
        m.placeholders.Nodup) ∧
      (∀ before m after, ms = before ++ m :: after → ∀ (i : Nat) token v,
        m.placeholders[i]? = some token → m.values[i]? = some v →
          c.params.get? token = some
            ((after.filterMap (Membership.valueAt? (listStem m.field) i)).getLast?.getD v)) ∧
      (b.KeepsLists ms ↔ ∀ before m after, ms = before ++ m :: after → ¬ m.GivesWay after) ∧
      (ms.Pairwise (fun m m' => listStem m.field ≠ listStem m'.field) → b.KeepsLists ms) := by
  intro c
  refine ⟨(run_memberships hms).1, fun m hm => ?_, ?_, keepsLists_iff hsingle hms, fun hstems => ?_⟩
  · have htokens := Membership.tokens_text (hms m hm)
    exact ⟨by rw [htokens, Membership.text], htokens, m.length_placeholders, m.nodup_placeholders⟩
  · intro before m after hsplit i token v htoken hv
    rw [Membership.eq_of_getElem?_placeholders htoken]
    exact get?_listPlaceholder_run hsingle hms hsplit hv
  · rw [keepsLists_iff hsingle hms]
    rintro before m after rfl
    exact not_givesWay_of_stems (List.pairwise_cons.1 (List.pairwise_append.1 hstems).2.1).1

/-- A condition on a list of numbers. -/
def numberList (field : String) (numbers : List Int) : Membership :=
  ⟨field, numbers.map fun n => .int32 (IntWidth.int32.clamp n)⟩

/-- A column under an alias, and a column that is called like both with a low line between them. -/
def stemmates : List Membership := [numberList "o.`id`" [1, 2], numberList "o_id" [3]]

private theorem isProper_stemmates : ∀ m ∈ stemmates, m.IsProper := by
  have hwords : IsWordName "o" ∧ IsWordName "`id`" ∧ IsWordName "o_id" :=
    ⟨⟨"o", by decide, .inl rfl⟩, ⟨"id", by decide, .inr (by decide)⟩,
      ⟨"o_id", by decide, .inl rfl⟩⟩
  have hdotted : IsDottedName "o.`id`" := by
    refine ⟨["o", "`id`"], List.cons_ne_nil _ _, ?_, by decide⟩
    simp only [List.forall_mem_cons]
    exact ⟨hwords.1, hwords.2.1, fun x hx => absurd hx List.not_mem_nil⟩
  have hscalar : ∀ field numbers, ∀ v ∈ (numberList field numbers).values, v.isObject = false := by
    intro field numbers v hv
    obtain ⟨n, -, rfl⟩ := List.mem_map.1 hv
    rfl
  simp only [stemmates, List.forall_mem_cons]
  exact ⟨⟨hdotted, List.cons_ne_nil _ _, hscalar _ _⟩,
    ⟨hwords.2.2.isDottedName, List.cons_ne_nil _ _, hscalar _ _⟩,
    fun m hm => absurd hm List.not_mem_nil⟩

/-- The first value of the one list gives way to that of the other, and the second one stays. -/
theorem get?_run_memberships_stemmates :
    let params := (empty.run (stemmates.map Membership.call)).params
    empty.params.IsSingle ∧ (∀ m ∈ stemmates, m.IsProper) ∧
      params.get? "@o_id_IN_0" = some (.int32 (IntWidth.int32.clamp 3)) ∧
      params.get? "@o_id_IN_1" = some (.int32 (IntWidth.int32.clamp 2)) := by
  intro params
  obtain ⟨-, -, hvalue, -⟩ :=
    get?_run_memberships (b := empty) Params.isSingle_empty isProper_stemmates
  have hfirst := hvalue [] (numberList "o.`id`" [1, 2]) [numberList "o_id" [3]] rfl
  refine ⟨Params.isSingle_empty, isProper_stemmates, ?_, ?_⟩
  · exact hfirst 0 "@o_id_IN_0" _ (by decide +kernel) rfl
  · exact hfirst 1 "@o_id_IN_1" _ (by decide +kernel) rfl

/-- So the first list does not keep its values. -/
theorem not_keepsLists_stemmates :
    (∀ m ∈ stemmates, m.IsProper) ∧ ¬ empty.KeepsLists stemmates := by
  refine ⟨isProper_stemmates, fun h => ?_⟩
  have hkeeps := (keepsLists_iff (b := empty) Params.isSingle_empty isProper_stemmates).1 h
  refine hkeeps [] (numberList "o.`id`" [1, 2]) [numberList "o_id" [3]] rfl
    ⟨0, .int32 (IntWidth.int32.clamp 1), .int32 (IntWidth.int32.clamp 3), rfl, rfl, fun hsame => ?_⟩
  exact absurd (Value.int32.inj hsame) (by decide)

end Builder

end SqlAssembly
