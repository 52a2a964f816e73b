import SqlAssembly.Proofs.ConditionalCalls

/-! # Elements and their values

A field of a record becomes a value, and a value of a request becomes an element of the type of a
field.  One undoes the other for the scalars and for lists of them at any depth, with one exception:
a value has no more than 64 bits with a sign for an integer.

A list is read element by element, so that one element that is worth nothing spoils all of it.  Null
is such an element whatever the type, also where it stands for an option without an element.

* `FieldType.isNested`                   the types that lists make of scalars
* `FieldType.FitsInt64`                  the integers of an element are in the range of a value
* `FieldType.coerce?_list_eq_some_iff`   which lists a value is worth
* `FieldType.coerce?_embed_iff_fitsInt64`   which elements come back from their values
* `FieldType.coerce?_embed_nested`          the same with what a value is worth as a list
* `FieldType.coerce?_embed_options`      a list of options comes back if it has an element
                                         everywhere -/

namespace SqlAssembly

theorem IntWidth.clamp_val (w : IntWidth) (n : Int) :
    (w.clamp n).val = max w.lo (min n w.hi) := rfl

namespace FieldType

/-! ## Types -/

/-- The scalars that a value has a kind for, and lists of them at any depth. -/
def isNested : FieldType → Bool
  | int _ | binary32 | binary64 | bool | text | moment | utcMoment | clock | date => true
  | list t => t.isNested
  | _ => false

/-- Whether there are integers of 64 bits without a sign in the elements of a type. -/
def hasWords : FieldType → Bool
  | int .uint64 | int .uintWord => true
  | list t => t.hasWords
  | _ => false

/-- Whether the integers in an element are in the range of 64 bits with a sign. -/
def FitsInt64 : (t : FieldType) → t.Carrier → Prop
  | int _, n => n.val ≤ IntWidth.int64.hi
  | list t, (xs : List t.Carrier) => ∀ x ∈ xs, FitsInt64 t x
  | _, _ => True

private theorem fitsInt64_of_hasWords_eq_false {t : FieldType} (h : t.hasWords = false)
    (x : t.Carrier) : t.FitsInt64 x := by
  induction t with
  | int w =>
    -- All widths but the two without a sign end below 64 bits with a sign.
    have hle : w.hi ≤ IntWidth.int64.hi := by
      cases w with
      | uint64 | uintWord => cases h
      | _ => decide
    exact Int.le_trans x.le_hi hle
  | list t ih => exact fun y _ => ih h y
  | _ => trivial

/-! ## Lists -/

/-- A list that is read element by element is not read if one of them is not. -/
private theorem mapM_eq_none_iff {α β : Type} {f : α → Option β} {xs : List α} :
    xs.mapM f = none ↔ ∃ x ∈ xs, f x = none := by
  induction xs with
  | nil => simp
  | cons x xs ih =>
    cases hx : f x with
    | none => simp [hx]
    | some y =>
      -- With an element for the first value, it is for the others to fail.
      have htail : (x :: xs).mapM f = none ↔ xs.mapM f = none := by
        cases hxs : xs.mapM f <;> simp [hx, hxs]
      rw [htail, ih]
      simp [hx]

variable {t : FieldType}

/-- A value is worth a list if it is an array and each of its elements is worth the element of the
    list at its place. -/
theorem coerce?_list_eq_some_iff {v : Value} {ys : List t.Carrier} :
    (list t).coerce? v = some ys ↔
      ∃ items, v = .array items ∧ List.Forall₂ (fun v y => t.coerce? v = some y) items ys := by
  cases v with
  | array items =>
    refine Bag.mapM_eq_some_iff.trans ⟨fun h => ⟨items, rfl, h⟩, ?_⟩
    rintro ⟨_, ⟨⟩, h⟩
    exact h
  | _ => exact ⟨nofun, nofun⟩

/-- An array is worth no list if one of its elements is worth nothing. -/
private theorem coerce?_list_array_eq_none_iff {items : List Value} :
    (list t).coerce? (.array items) = none ↔ ∃ v ∈ items, t.coerce? v = none :=
  mapM_eq_none_iff

/-- A list comes back from its value if each of its elements does. -/
theorem coerce?_embed_list_iff {xs : List t.Carrier} :
    (list t).coerce? ((list t).embed xs) = some xs ↔
      ∀ x ∈ xs, t.coerce? (t.embed x) = some x := by
  rw [coerce?_list_eq_some_iff]
  constructor
  · rintro ⟨_, ⟨⟩, h⟩
    exact List.forall₂_same.1 (List.forall₂_map_left_iff.1 h)
  · intro h
    exact ⟨_, rfl, List.forall₂_map_left_iff.2 (List.forall₂_same.2 h)⟩

/-! ## Scalars -/

/-- The value of an integer is the integer, cut to 64 bits with a sign. -/
theorem integer?_embed_int (w : IntWidth) (n : w.Carrier) :
    ((int w).embed n).integer? = some (min n.val IntWidth.int64.hi) ∧
      ((int w).embed n).text? = none := by
  have hlo := n.lo_le
  have hhi := n.le_hi
  refine ⟨?_, by cases w <;> rfl⟩
  -- The kind of value that a width goes to holds all of it, but for 64 bits without a sign.
  cases w <;>
    · refine congrArg some ?_
      simp only [IntWidth.clamp_val, IntWidth.lo, IntWidth.hi] at hlo hhi ⊢
      omega

/-- A value that is no text is worth the nearest integer of a width. -/
theorem coerce?_int_of_integer? (w : IntWidth) {v : Value} (h : v.text? = none) :
    (int w).coerce? v = v.integer?.map w.clamp := by
  have hsaturate : w.saturate = w.clamp := funext w.saturate_eq_clamp
  rw [← hsaturate]
  cases v with
  | text s => cases h
  | _ => rfl

/-- An integer comes back if it is in the range of 64 bits with a sign. -/
theorem coerce?_embed_int_iff (w : IntWidth) (n : w.Carrier) :
    (int w).coerce? ((int w).embed n) = some n ↔ n.val ≤ IntWidth.int64.hi := by
  obtain ⟨hinteger, htext⟩ := integer?_embed_int w n
  have hlo := n.lo_le
  have hhi := n.le_hi
  have hneg := w.lo_nonpos
  have hpos : 0 ≤ IntWidth.int64.hi := IntWidth.hi_nonneg _
  -- The value is cut to 64 bits, and what is read is cut to the width.
  rw [coerce?_int_of_integer? w htext, hinteger]
  constructor
  · intro h
    have hval := congrArg Bounded.val (Option.some.inj h)
    rw [IntWidth.clamp_val] at hval
    omega
  · intro h
    refine congrArg some (Bounded.ext ?_)
    rw [IntWidth.clamp_val]
    omega

/-! ## Lists of scalars -/

/-- An element of nested lists of scalars comes back from its value if its integers are in the
    range. -/
theorem coerce?_embed_iff_fitsInt64 (h : t.isNested = true) (x : t.Carrier) :
    t.coerce? (t.embed x) = some x ↔ t.FitsInt64 x := by
  -- Only lists need the induction, and only integers need the range.
  induction t with
  | int w => exact coerce?_embed_int_iff w x
  | binary32 | binary64 | bool | text | moment | clock => exact iff_of_true rfl trivial
  | utcMoment => exact iff_of_true (congrArg some (Moment.toUtc_moment x)) trivial
  | date => exact iff_of_true (congrArg some (Clock.date_midnight x)) trivial
  | list t ih =>
    exact coerce?_embed_list_iff.trans (forall_congr' fun y => imp_congr_right fun _ => ih h y)
  | value | json | comparison | enumeration | span | option => cases h

/-- **Elements come back from their values.**  Among nested lists of scalars only those with an
    integer beyond 64 bits with a sign do not, and where the type has no such integers, all do.  As
    for what a value is worth: a list if it is an array and each of its elements is worth the
    element of the list at its place, so that one element that is worth nothing spoils the list. -/
theorem coerce?_embed_nested :
    (∀ t : FieldType, t.isNested = true → ∀ x : t.Carrier,
      (t.coerce? (t.embed x) = some x ↔ t.FitsInt64 x) ∧
        (t.hasWords = false → t.coerce? (t.embed x) = some x)) ∧
    ∀ t : FieldType,
      (∀ (v : Value) (ys : List t.Carrier), (list t).coerce? v = some ys ↔
        ∃ items, v = .array items ∧ List.Forall₂ (fun v y => t.coerce? v = some y) items ys) ∧
      ∀ items, (list t).coerce? (.array items) = none ↔ ∃ v ∈ items, t.coerce? v = none := by
  refine ⟨fun t ht x => ?_, fun t => ⟨fun v ys => coerce?_list_eq_some_iff,
    fun items => coerce?_list_array_eq_none_iff⟩⟩
  have hiff := coerce?_embed_iff_fitsInt64 ht x
  exact ⟨hiff, fun hwords => hiff.2 (fitsInt64_of_hasWords_eq_false hwords x)⟩

/-- Lists of lists of the greatest number that comes back and of the next one. -/
theorem coerce?_embed_nested_greatest :
    (list (list (int .uint64))).isNested = true ∧
    (list (list (int .uint64))).coerce? ((list (list (int .uint64))).embed
        [[], [IntWidth.uint64.clamp 9223372036854775807]]) =
      some [[], [IntWidth.uint64.clamp 9223372036854775807]] ∧
    (list (list (int .uint64))).coerce? ((list (list (int .uint64))).embed
        [[], [IntWidth.uint64.clamp 9223372036854775808]]) ≠
      some [[], [IntWidth.uint64.clamp 9223372036854775808]] := by
  -- The two lists are told apart by the range of their one integer.
  have hiff := fun x => (coerce?_embed_nested.1 (list (list (int .uint64))) rfl x).1
  refine ⟨rfl, (hiff _).2 ?_, fun h => ?_⟩
  · have hfits : (IntWidth.uint64.clamp 9223372036854775807).val ≤ IntWidth.int64.hi := by decide
    exact List.forall_mem_cons.2 ⟨nofun, List.forall_mem_singleton.2
      (List.forall_mem_singleton.2 hfits)⟩
  · have hfits : ¬ (IntWidth.uint64.clamp 9223372036854775808).val ≤ IntWidth.int64.hi := by decide
    exact hfits ((hiff _).1 h _ (List.mem_cons_of_mem _ List.mem_cons_self) _ List.mem_cons_self)

/-! ## Lists of options -/

/-- Null is worth no element of nested lists of scalars. -/
private theorem coerce?_null (h : t.isNested = true) : t.coerce? .null = none := by
  cases t with
  | int w | binary32 | binary64 | bool | text | moment | utcMoment | clock | date | list => rfl
  | value | json | comparison | enumeration | span | option => cases h

/-- An option comes back from its value if it has an element, and one without an element is lost. -/
theorem coerce?_embed_option (h : t.isNested = true) {x : Option t.Carrier}
    (hx : ∀ y ∈ x, t.FitsInt64 y) :
    (option t).coerce? ((option t).embed x) = x.map some := by
  -- The element that is lacking is written as null, which is worth no element.
  cases x with
  | none => exact congrArg (Option.map some) (coerce?_null h)
  | some y =>
    exact congrArg (Option.map some) ((coerce?_embed_iff_fitsInt64 h y).2 (hx y rfl))

/-- A list of options comes back from its value if there is an element everywhere; else nothing
    comes back. -/
private theorem coerce?_embed_list_option (h : t.isNested = true) {xs : List (Option t.Carrier)}
    (hxs : ∀ x ∈ xs, ∀ y ∈ x, t.FitsInt64 y) :
    ((list (option t)).coerce? ((list (option t)).embed xs) = some xs ↔ none ∉ xs) ∧
      ((list (option t)).coerce? ((list (option t)).embed xs) = none ↔ none ∈ xs) := by
  -- The decoder of an option never gives one without an element, and null is no element either.
  have hoption : ∀ x ∈ xs, (option t).coerce? ((option t).embed x) = x.map some :=
    fun x hx => coerce?_embed_option h (hxs x hx)
  constructor
  · have hall : (∀ x ∈ xs, (option t).coerce? ((option t).embed x) = some x) ↔
        ∀ x ∈ xs, x ≠ none := by
      refine forall₂_congr fun x hx => ?_
      rw [hoption x hx]
      cases x with
      | none => exact iff_of_false nofun fun hne => hne rfl
      | some y => exact iff_of_true rfl nofun
    exact coerce?_embed_list_iff.trans (hall.trans List.forall_mem_ne')
  · refine coerce?_list_array_eq_none_iff.trans ⟨?_, fun hnone => ?_⟩
    · rintro ⟨v, hv, hcoerce⟩
      obtain ⟨x, hx, rfl⟩ := List.mem_map.1 hv
      -- The one that fails to come back is the one without an element.
      obtain rfl : x = none := Option.map_eq_none_iff.1 ((hoption x hx).symm.trans hcoerce)
      exact hx
    · exact ⟨_, List.mem_map_of_mem hnone, hoption none hnone⟩

/-- **Lists of options.**  The value of a list of options has null where there is no element.  Such
    a list comes back from its value if there is an element everywhere; else nothing comes back. -/
theorem coerce?_embed_options (xs : List (Option IntWidth.int32.Carrier)) :
    (list (option (int .int32))).embed xs = .array (xs.map fun x => x.elim .null .int32) ∧
    ((list (option (int .int32))).coerce? ((list (option (int .int32))).embed xs) = some xs ↔
      none ∉ xs) ∧
    ((list (option (int .int32))).coerce? ((list (option (int .int32))).embed xs) = none ↔
      none ∈ xs) := by
  have hxs : ∀ x ∈ xs, ∀ y ∈ x, (int .int32).FitsInt64 y :=
    fun x _ y _ => fitsInt64_of_hasWords_eq_false (t := int .int32) rfl y
  refine ⟨congrArg Value.array (List.map_congr_left fun x _ => ?_),
    coerce?_embed_list_option rfl hxs⟩
  cases x <;> rfl

-- One option without an element spoils the list.
example : (list (option (int .int32))).coerce? (.array [.int32 (IntWidth.int32.clamp 1), .null]) =
    none := rfl

end FieldType

end SqlAssembly
