import SqlAssembly.Coercion.FieldType
import SqlAssembly.Proofs.IdentifierText
import SqlAssembly.Proofs.IntegerLiterals
import SqlAssembly.Text.Name

/-! # Variants and their values

A value chooses a variant by its label or by its code, and the first variant that it may choose is
the one.  What a value says of a single variant is described here without that order.  A label is a
name and no numeral is one, so labels and codes never compete: only two labels that differ in case
alone make the order matter.

The value of a variant has 32 bits of its code and no more, while 64 bits of a code are compared
with it.  A variant therefore comes back from its value exactly if its code is a number of 32 bits,
or equals a negative one in the 64 bits that are compared.

* `Variant.IsDenotedBy`                      what a value says of a variant
* `Enumeration.IsDeclared`                   the labels and codes that a declaration can give
* `FieldType.coerce?_enumeration_iff`        which values choose a variant
* `FieldType.coerce?_embed_enumeration_iff`  which variants come back from their values -/

namespace SqlAssembly

/-! ## Labels and numerals -/

namespace Text

/-- No character below the letters starts a name. -/
private theorem le_toNat_of_isNameStart {c : Char} (h : isNameStart c = true) :
    'A'.toNat ≤ c.toNat := by
  rw [isNameStart] at h
  split at h
  · rw [Bool.or_eq_true, decide_eq_true_iff, Ident.isAlpha_iff] at h
    rcases h with (h | h) | rfl
    · exact h.1
    · exact Nat.le_trans (by decide : 'A'.toNat ≤ 'a'.toNat) h.1
    · decide
  · rename_i hc
    exact Nat.le_trans (by decide) (Nat.not_lt.1 hc)

/-- A text that equals a name but for the case of letters is no integer literal. -/
private theorem not_isLiteral_of_equalUpToCase {t label : String}
    (hname : isName label.toList = true) (h : equalUpToCase t label = true) (n : Int) :
    ¬ Numeral.IsLiteral t.toList n := by
  intro hliteral
  obtain ⟨c, cs, ht, hc⟩ := hliteral.exists_cons
  rw [equalUpToCase_iff, lowerAscii, lowerAscii, ht] at h
  cases hlabel : label.toList with
  | nil => rw [hlabel] at hname; exact Bool.false_ne_true hname
  | cons d ds =>
    rw [hlabel, isName, Bool.and_eq_true] at hname
    rw [hlabel] at h
    have hd := le_toNat_of_isNameStart hname.1
    have hsmall : c.toNat < 'A'.toNat := by
      rcases hc with hc | rfl | rfl
      · rw [Numeral.isDigit, Bool.and_eq_true, decide_eq_true_iff, decide_eq_true_iff] at hc
        exact Nat.lt_of_le_of_lt hc.2 (by decide)
      · decide
      · decide
    -- Lower case keeps every character on its side of the letters.
    have hlower : c.toLower.toNat = d.toLower.toNat := congrArg Char.toNat (List.cons.inj h).1
    have hA : 'A'.toNat = 65 := rfl
    rw [toNat_toLower, toNat_toLower] at hlower
    split at hlower <;> split at hlower <;> omega

end Text

/-- An integer has one value at most. -/
theorem Numeral.IsLiteral.unique {cs : List Char} {m n : Int} (hm : IsLiteral cs m)
    (hn : IsLiteral cs n) : m = n :=
  Option.some.inj ((readInt?_eq_some_iff.2 hm).symm.trans (readInt?_eq_some_iff.2 hn))

/-! ## The first variant -/

namespace Enumeration

variable {e : Enumeration} {i : e.Carrier}

/-- The variant at this place is the first one of which `p` holds. -/
def IsFirst (e : Enumeration) (p : Variant → Prop) (i : e.Carrier) : Prop :=
  p (e.variant i) ∧ ∀ j < i, ¬ p (e.variant j)

private theorem first?_eq_some_iff {p : Variant → Bool} :
    e.first? p = some i ↔ e.IsFirst (fun x => p x = true) i := by
  -- The variants are looked through in order, so that places are what is compared.
  rw [first?, List.find?_eq_some_iff_getElem, IsFirst]
  refine and_congr_right fun _ => ⟨?_, ?_⟩
  · rintro ⟨k, hk, hki, hbefore⟩ j hj
    rw [List.getElem_finRange] at hki
    have hfalse := hbefore j.val (Nat.lt_of_lt_of_eq hj (congrArg Fin.val hki).symm)
    rw [List.getElem_finRange, Bool.not_eq_true'] at hfalse
    exact Bool.eq_false_iff.1 hfalse
  · intro hbefore
    refine ⟨i.val, List.length_finRange.symm ▸ i.isLt, List.getElem_finRange _, fun j hj => ?_⟩
    rw [List.getElem_finRange, Bool.not_eq_true']
    exact Bool.eq_false_iff.2 (hbefore ⟨j, Nat.lt_trans hj i.isLt⟩ hj)

private theorem first?_eq_none_iff {p : Variant → Bool} :
    e.first? p = none ↔ ∀ i, ¬ p (e.variant i) = true := by
  rw [first?, List.find?_eq_none]
  exact ⟨fun h i => h i (List.mem_finRange i), fun h i _ => h i⟩

/-- Two properties that the same variants have, have the same first one. -/
private theorem isFirst_congr {p q : Variant → Prop} (h : ∀ j, p (e.variant j) ↔ q (e.variant j)) :
    e.IsFirst p i ↔ e.IsFirst q i :=
  and_congr (h i) (forall₂_congr fun j _ => not_congr (h j))

/-- A variant that shares a property with no other is the first to have it. -/
private theorem isFirst_iff_of_unique {p : Variant → Prop}
    (h : ∀ i j, p (e.variant i) → p (e.variant j) → i = j) :
    e.IsFirst p i ↔ p (e.variant i) :=
  ⟨fun hfirst => hfirst.1, fun hi => ⟨hi, fun j hj hp => absurd (h j i hp hi) (Fin.ne_of_lt hj)⟩⟩

end Enumeration

/-! ## Codes in a width -/

namespace IntWidth

variable {w : IntWidth} {m n : Int}

theorem wrap_val (w : IntWidth) (n : Int) :
    (w.wrap n).val = w.lo + (n - w.lo) % (Nat.pow 2 w.bits : Nat) := by
  rw [← w.hi_sub_lo]
  rfl

theorem wrap_of_mem (h : w.lo ≤ n ∧ n ≤ w.hi) : (w.wrap n).val = n := by
  have hmod : (n - w.lo) % (w.hi - w.lo + 1) = n - w.lo :=
    Int.emod_eq_of_lt (by omega) (by omega)
  show w.lo + (n - w.lo) % (w.hi - w.lo + 1) = n
  omega

/-- Cut to 64 bits, the numbers of a width remain different. -/
private theorem eq_of_wrap_int64 (hm : w.lo ≤ m ∧ m ≤ w.hi) (hn : w.lo ≤ n ∧ n ≤ w.hi)
    (h : (int64.wrap m).val = (int64.wrap n).val) : m = n := by
  -- No width has more numbers than 64 bits have patterns.
  have hsize : w.hi - w.lo < 18446744073709551616 := by cases w <;> decide
  simp only [wrap_val, lo, bits, Nat.pow_eq, Nat.reducePow] at h
  omega

/-- 32 bits of a number and 64 bits of it are the same number if it is one of 32 bits, or a
    negative one in the guise of one without a sign. -/
private theorem wrap_int64_eq_wrap_int32_iff (h : w.lo ≤ n ∧ n ≤ w.hi) :
    (int64.wrap n).val = (int32.wrap n).val ↔
      (int32.lo ≤ n ∧ n ≤ int32.hi) ∨ uint64.hi + int32.lo < n := by
  -- Equal to a number of 32 bits in 64 bits, a code is that number or 2 ^ 64 above it.
  have hlo := w.int64_lo_le
  have hhi := w.hi_le_uint64
  simp only [wrap_val, lo, hi, bits, Nat.pow_eq, Nat.reducePow]
  omega

end IntWidth

/-! ## What values say of variants -/

/-- A value says of a variant that it is the one. -/
inductive Variant.IsDenotedBy (x : Variant) : Value → Prop
  | label {s : String} (h : Text.equalUpToCase (Text.trim s) x.label = true) :
      IsDenotedBy x (.text s)
  | literal {s : String} (h : Numeral.IsLiteral (Text.trim s).toList x.code) :
      IsDenotedBy x (.text s)
  | int16 {n : IntWidth.int16.Carrier} (h : n.val = x.code) : IsDenotedBy x (.int16 n)
  | int32 {n : IntWidth.int32.Carrier} (h : n.val = x.code) : IsDenotedBy x (.int32 n)
  | int64 {n : IntWidth.int64.Carrier} (h : n.val = x.code) : IsDenotedBy x (.int64 n)

private theorem Variant.isDenotedBy_text_iff {x : Variant} {s : String} :
    x.IsDenotedBy (.text s) ↔ Text.equalUpToCase (Text.trim s) x.label = true ∨
      Numeral.IsLiteral (Text.trim s).toList x.code := by
  constructor
  · intro h
    cases h with
    | label h => exact .inl h
    | literal h => exact .inr h
  · rintro (h | h)
    · exact .label h
    · exact .literal h

namespace Enumeration

variable {e : Enumeration} {i : e.Carrier}

/-- The labels of a declared enumeration are names, and its codes are different numbers of one
    width. -/
structure IsDeclared (e : Enumeration) (w : IntWidth) : Prop where
  isName_label : ∀ i, Text.isName (e.variant i).label.toList = true
  code_injective : ∀ i j, (e.variant i).code = (e.variant j).code → i = j
  code_mem : ∀ i, w.lo ≤ (e.variant i).code ∧ (e.variant i).code ≤ w.hi

/-- No two labels are equal but for the case of letters. -/
def HasDistinctLabels (e : Enumeration) : Prop :=
  ∀ i j, Text.equalUpToCase (e.variant i).label (e.variant j).label = true → i = j

private theorem ofCode?_eq_some_iff_isFirst {n : Int} :
    e.ofCode? n = some i ↔ e.IsFirst (fun x => (IntWidth.int64.wrap x.code).val = n) i := by
  rw [ofCode?, first?_eq_some_iff]
  simp only [decide_eq_true_eq]

/-- A number chooses the variant of that code. -/
theorem ofCode?_eq_some_iff (h : e.IsDeclared .int64) {n : Int} :
    e.ofCode? n = some i ↔ n = (e.variant i).code := by
  have hwrap : ∀ j, (IntWidth.int64.wrap (e.variant j).code).val = (e.variant j).code :=
    fun j => IntWidth.wrap_of_mem (h.code_mem j)
  -- Codes of 64 bits are compared as they are.
  rw [ofCode?_eq_some_iff_isFirst, isFirst_iff_of_unique, hwrap, eq_comm]
  intro j k hj hk
  rw [hwrap] at hj hk
  exact h.code_injective j k (hj.trans hk.symm)

/-- A text chooses the first variant that it denotes. -/
theorem ofText?_eq_some_iff (h : e.IsDeclared .int64) {s : String} :
    e.ofText? s = some i ↔ e.IsFirst (fun x => x.IsDenotedBy (.text s)) i := by
  rw [ofText?]
  split
  · rename_i k hk
    have hlabel := (first?_eq_some_iff.1 hk).1
    -- The text equals a name, so no code counts.
    have hdenoted : ∀ j, (e.variant j).IsDenotedBy (.text s) ↔
        Text.equalUpToCase (Text.trim s) (e.variant j).label = true := fun j =>
      Variant.isDenotedBy_text_iff.trans
        (or_iff_left (Text.not_isLiteral_of_equalUpToCase (h.isName_label k) hlabel _))
    rw [isFirst_congr (q := fun x => Text.equalUpToCase (Text.trim s) x.label = true) hdenoted,
      ← first?_eq_some_iff, hk]
  · rename_i hnone
    -- No label equals the text, so only a code can.
    have hlabel := first?_eq_none_iff.1 hnone
    have hdenoted : ∀ j, (e.variant j).IsDenotedBy (.text s) ↔
        Numeral.IsLiteral (Text.trim s).toList (e.variant j).code := fun j =>
      Variant.isDenotedBy_text_iff.trans (or_iff_right (hlabel j))
    rw [isFirst_congr (q := fun x => Numeral.IsLiteral (Text.trim s).toList x.code) hdenoted,
      isFirst_iff_of_unique, Option.bind_eq_some_iff]
    · constructor
      · rintro ⟨n, hread, hcode⟩
        rw [← (ofCode?_eq_some_iff h).1 hcode]
        exact (IntWidth.read?_eq_some_iff rfl).1 hread
      · intro hliteral
        exact ⟨⟨_, (h.code_mem i).1, (h.code_mem i).2⟩,
          (IntWidth.read?_eq_some_iff rfl).2 hliteral, (ofCode?_eq_some_iff h).2 rfl⟩
    · exact fun j k hj hk => h.code_injective j k (hj.unique hk)

/-- A number denotes the variant of that code alone. -/
private theorem isFirst_isDenotedBy_iff (h : e.IsDeclared .int64) {v : Value} {n : Int}
    (hv : ∀ x : Variant, x.IsDenotedBy v ↔ n = x.code) :
    e.IsFirst (fun x => x.IsDenotedBy v) i ↔ n = (e.variant i).code := by
  -- Codes are different, so that the first variant of a code is the only one.
  rw [isFirst_congr (q := fun x => n = x.code) fun j => hv (e.variant j)]
  exact isFirst_iff_of_unique fun j k hj hk => h.code_injective j k (hj.symm.trans hk)

/-- A value chooses the first variant that it denotes. -/
theorem ofValue?_eq_some_iff (h : e.IsDeclared .int64) {v : Value} :
    e.ofValue? v = some i ↔ e.IsFirst (fun x => x.IsDenotedBy v) i := by
  -- Only texts and integers choose a variant.
  cases v with
  | text s => exact ofText?_eq_some_iff h
  | int16 n =>
    rw [isFirst_isDenotedBy_iff h fun x => ⟨fun hx => by cases hx; assumption, .int16⟩]
    exact ofCode?_eq_some_iff h
  | int32 n =>
    rw [isFirst_isDenotedBy_iff h fun x => ⟨fun hx => by cases hx; assumption, .int32⟩]
    exact ofCode?_eq_some_iff h
  | int64 n =>
    rw [isFirst_isDenotedBy_iff h fun x => ⟨fun hx => by cases hx; assumption, .int64⟩]
    exact ofCode?_eq_some_iff h
  | null | bool | float32 | float64 | moment | array | object =>
    exact ⟨nofun, fun hi => nomatch hi.1⟩

/-- Where no two labels are equal but for case, a value denotes one variant at most. -/
private theorem isDenotedBy_unique (h : e.IsDeclared .int64) (hlabels : e.HasDistinctLabels)
    {v : Value} {i j : e.Carrier} (hi : (e.variant i).IsDenotedBy v)
    (hj : (e.variant j).IsDenotedBy v) :
    i = j := by
  cases hi with
  | label hi =>
    cases hj with
    | label hj =>
      apply hlabels
      rw [Text.equalUpToCase_iff] at hi hj ⊢
      exact hi.symm.trans hj
    | literal hj =>
      -- A label is a name, and no name is an integer.
      exact absurd hj (Text.not_isLiteral_of_equalUpToCase (h.isName_label i) hi _)
  | literal hi =>
    cases hj with
    | label hj =>
      exact absurd hi (Text.not_isLiteral_of_equalUpToCase (h.isName_label j) hj _)
    | literal hj => exact h.code_injective i j (hi.unique hj)
  | int16 hi => cases hj with | int16 hj => exact h.code_injective i j (hi.symm.trans hj)
  | int32 hi => cases hj with | int32 hj => exact h.code_injective i j (hi.symm.trans hj)
  | int64 hi => cases hj with | int64 hj => exact h.code_injective i j (hi.symm.trans hj)

/-- An enumeration with a code below nought and one beyond 32 bits. -/
def levels : Enumeration := ⟨[⟨"Low", -1⟩, ⟨"On", 10⟩, ⟨"Huge", 3000000000⟩]⟩

private theorem isDeclared_levels : levels.IsDeclared .int64 :=
  ⟨by decide +kernel, by decide +kernel, by decide +kernel⟩

end Enumeration

/-! ## Reading a variant and writing it -/

namespace FieldType

/-- A value chooses the variants that it denotes, the first one of them where labels are equal but
    for the case of letters. -/
theorem coerce?_enumeration_iff (e : Enumeration) (h : e.IsDeclared .int64) :
    (e.HasDistinctLabels → ∀ (v : Value) (i : e.Carrier),
        (enumeration e).coerce? v = some i ↔ (e.variant i).IsDenotedBy v) ∧
      (∀ (v : Value) (i : e.Carrier),
        (enumeration e).coerce? v = some i ↔ e.IsFirst (fun x => x.IsDenotedBy v) i) ∧
      ∀ (s : String) (i : e.Carrier),
        e.IsFirst (fun x => Text.equalUpToCase (Text.trim s) x.label = true) i →
          (enumeration e).coerce? (.text s) = some i := by
  have hfirst (v : Value) (i : e.Carrier) :
      (enumeration e).coerce? v = some i ↔ e.IsFirst (fun x => x.IsDenotedBy v) i :=
    Enumeration.ofValue?_eq_some_iff h
  refine ⟨fun hlabels v i => ?_, hfirst, fun s i hi => ?_⟩
  · rw [hfirst]
    exact Enumeration.isFirst_iff_of_unique fun j k => Enumeration.isDenotedBy_unique h hlabels
  · -- A variant before the first of that label could be denoted by its code alone.
    refine (hfirst _ i).2 ⟨.label hi.1, fun j hj hdenoted => ?_⟩
    rcases Variant.isDenotedBy_text_iff.1 hdenoted with hlabel | hliteral
    · exact hi.2 j hj hlabel
    · exact Text.not_isLiteral_of_equalUpToCase (h.isName_label i) hi.1 _ hliteral

/-- A label chooses in letters of any case, and a code with a sign and with blanks around it. -/
theorem coerce?_enumeration_iff_levels :
    Enumeration.levels.IsDeclared .int64 ∧ Enumeration.levels.HasDistinctLabels ∧
      (enumeration .levels).coerce? (.text "huge") = some (2 : Fin 3) ∧
      (enumeration .levels).coerce? (.text " +10 ") = some (1 : Fin 3) := by
  have hlabels : Enumeration.levels.HasDistinctLabels := by
    unfold Enumeration.HasDistinctLabels
    decide +kernel
  have hliteral : Numeral.IsLiteral (Text.trim " +10 ").toList 10 := by
    have htrim : (Text.trim " +10 ").toList = ['+', '1', '0'] := by decide +kernel
    have hdigits : Numeral.IsDigits ['1', '0'] :=
      ⟨List.cons_ne_nil _ _, List.all_eq_true.1 (by decide)⟩
    rw [htrim]
    exact .plus hdigits
  have hlevels := coerce?_enumeration_iff .levels Enumeration.isDeclared_levels
  exact ⟨Enumeration.isDeclared_levels, hlabels,
    hlevels.2.2 "huge" ⟨2, by decide⟩ (by rw [Enumeration.IsFirst]; decide +kernel),
    (hlevels.1 hlabels (.text " +10 ") (1 : Fin 3)).2 (.literal hliteral)⟩

/-- A variant comes back as the first one whose code has the 64 bits that its value stands for.
    That is the variant itself exactly if its code is a number of 32 bits, or a negative one in the
    guise of one without a sign. -/
theorem coerce?_embed_enumeration_iff (e : Enumeration) :
    (∀ i j : e.Carrier,
        (enumeration e).coerce? ((enumeration e).embed i) = some j ↔
          e.IsFirst (fun x => (IntWidth.int64.wrap x.code).val =
            (IntWidth.int32.wrap (e.variant i).code).val) j) ∧
      ∀ w : IntWidth, e.IsDeclared w → ∀ i : e.Carrier,
        (enumeration e).coerce? ((enumeration e).embed i) = some i ↔
          (IntWidth.int32.lo ≤ (e.variant i).code ∧ (e.variant i).code ≤ IntWidth.int32.hi) ∨
            IntWidth.uint64.hi + IntWidth.int32.lo < (e.variant i).code := by
  have hfirst (i j : e.Carrier) :
      (enumeration e).coerce? ((enumeration e).embed i) = some j ↔
        e.IsFirst (fun x => (IntWidth.int64.wrap x.code).val =
          (IntWidth.int32.wrap (e.variant i).code).val) j :=
    Enumeration.ofCode?_eq_some_iff_isFirst
  refine ⟨hfirst, fun w h i => ?_⟩
  -- In 64 bits the codes are still different, so that there is one candidate.
  rw [hfirst, Enumeration.isFirst_iff_of_unique fun j k hj hk => ?_]
  · exact IntWidth.wrap_int64_eq_wrap_int32_iff (h.code_mem i)
  · exact h.code_injective j k
      (IntWidth.eq_of_wrap_int64 (h.code_mem j) (h.code_mem k) (hj.trans hk.symm))

/-- A negative code comes back, one beyond 32 bits does not. -/
theorem coerce?_embed_enumeration_iff_levels :
    Enumeration.levels.IsDeclared .int64 ∧
      (enumeration .levels).coerce? ((enumeration .levels).embed (0 : Fin 3)) = some (0 : Fin 3) ∧
      (enumeration .levels).coerce? ((enumeration .levels).embed (2 : Fin 3)) ≠
        some (2 : Fin 3) := by
  have hlevels := (coerce?_embed_enumeration_iff .levels).2 .int64 Enumeration.isDeclared_levels
  exact ⟨Enumeration.isDeclared_levels, (hlevels (0 : Fin 3)).2 (by decide),
    fun h => absurd ((hlevels (2 : Fin 3)).1 h) (by decide)⟩

end FieldType

end SqlAssembly
