import Mathlib.Data.List.TakeWhile
import SqlAssembly.Placeholder

/-! # Placeholders of texts put together

A statement is glued together from fragments with separators between them.  A placeholder ends
where its word ends, so gluing neither makes nor loses one as long as a fragment is not followed by
a word character, and a separator without an at sign brings none of its own.

* `Placeholder.tokenChars_append`   two texts, the second of which begins no word
* `Placeholder.isGlue`              the separators that are safe behind any text
* `Placeholder.tokens_glue`, `Placeholder.tokens_intercalate`   texts with such separators
* `Placeholder.tokens_at_word`      the placeholder of a single name -/

namespace SqlAssembly.Placeholder

/-- Whether a text begins no word, so that what stands in front of it cannot run on into it. -/
def IsApart (cs : List Char) : Prop := ∀ c ∈ cs.head?, Text.isWord c = false

theorem isWord_at : Text.isWord '@' = false := by decide

private theorem isWord_backtick : Text.isWord (Char.ofNat 0x60) = false := by decide

/-- A run of word characters stops where a text begins no word. -/
theorem takeWhile_append_of_isApart {b : List Char} (h : IsApart b) (a : List Char) :
    (a ++ b).takeWhile Text.isWord = a.takeWhile Text.isWord := by
  induction a with
  | nil =>
    cases b with
    | nil => rfl
    | cons c cs =>
      have hc : Text.isWord c = false := h c rfl
      rw [List.nil_append, List.takeWhile_cons, hc]
      rfl
  | cons c cs ih =>
    rw [List.cons_append, List.takeWhile_cons, List.takeWhile_cons, ih]

/-- The placeholders of two texts, the second of which begins no word. -/
theorem tokenChars_append {b : List Char} (h : IsApart b) (a : List Char) :
    tokenChars (a ++ b) = tokenChars a ++ tokenChars b := by
  induction a with
  | nil => rfl
  | cons c cs ih =>
    -- A word is cut off at the border, for the second text begins none.
    rw [List.cons_append, tokenChars, tokenChars, takeWhile_append_of_isApart h, ih]
    split
    · split
      · rfl
      · rfl
    · rfl

/-- A text without an at sign in front adds no placeholder. -/
theorem tokenChars_append_of_not_mem {a : List Char} (h : '@' ∉ a) (b : List Char) :
    tokenChars (a ++ b) = tokenChars b := by
  induction a with
  | nil => rfl
  | cons c cs ih =>
    have hc : c ≠ '@' := fun hc => h (hc ▸ List.mem_cons_self)
    have hcs : '@' ∉ cs := fun hcs => h (List.mem_cons_of_mem c hcs)
    rw [List.cons_append, tokenChars, if_neg hc, ih hcs]

/-! ## Texts -/

theorem tokens_append {b : String} (h : IsApart b.toList) (a : String) :
    tokens (a ++ b) = tokens a ++ tokens b := by
  rw [tokens, String.toList_append, tokenChars_append h, List.map_append]
  rfl

theorem tokens_append_of_not_mem {a : String} (h : '@' ∉ a.toList) (b : String) :
    tokens (a ++ b) = tokens b := by
  rw [tokens, String.toList_append, tokenChars_append_of_not_mem h]
  rfl

theorem tokens_of_not_mem {s : String} (h : '@' ∉ s.toList) : tokens s = [] := by
  rw [← String.append_empty (s := s), tokens_append_of_not_mem h]
  rfl

/-- Whether a text may stand behind any other as a separator: it begins no word and has no at
    sign. -/
def isGlue (s : String) : Bool :=
  match s.toList with
  | [] => false
  | c :: cs => !Text.isWord c && decide ('@' ∉ c :: cs)

private theorem isApart_append_of_isGlue {g : String} (hg : isGlue g = true) (b : String) :
    IsApart (g ++ b).toList := by
  rw [isGlue] at hg
  split at hg
  · exact absurd hg Bool.false_ne_true
  · rename_i c cs hcs
    rw [Bool.and_eq_true, Bool.not_eq_true'] at hg
    rw [String.toList_append, hcs]
    intro d hd
    -- Only the first character of the separator meets what stands in front.
    obtain rfl := Option.some.inj hd
    exact hg.1

private theorem not_mem_of_isGlue {g : String} (hg : isGlue g = true) : '@' ∉ g.toList := by
  rw [isGlue] at hg
  split at hg
  · exact absurd hg Bool.false_ne_true
  · rename_i c cs hcs
    rw [Bool.and_eq_true, decide_eq_true_eq] at hg
    rw [hcs]
    exact hg.2

theorem isGlue_append {g b : String} (hg : isGlue g = true) (hb : '@' ∉ b.toList) :
    isGlue (g ++ b) = true := by
  have hgat := not_mem_of_isGlue hg
  rw [isGlue] at hg
  split at hg
  · exact absurd hg Bool.false_ne_true
  · rename_i c cs hcs
    rw [Bool.and_eq_true] at hg
    -- The first character stays what it was, so only the at sign is left to be ruled out.
    rw [hcs] at hgat
    rw [isGlue, String.toList_append, hcs, List.cons_append]
    simp only [hg.1, Bool.true_and, decide_eq_true_eq, ← List.cons_append, List.mem_append,
      not_or]
    exact ⟨hgat, hb⟩

/-- A separator between two texts keeps their placeholders. -/
theorem tokens_glue {g : String} (hg : isGlue g = true) (a b : String) :
    tokens (a ++ g ++ b) = tokens a ++ tokens b := by
  rw [String.append_assoc, tokens_append (isApart_append_of_isGlue hg b),
    tokens_append_of_not_mem (not_mem_of_isGlue hg)]

theorem tokens_append_of_isGlue {g : String} (hg : isGlue g = true) (a : String) :
    tokens (a ++ g) = tokens a := by
  rw [← String.append_empty (s := a ++ g), tokens_glue hg]
  exact List.append_nil _

theorem tokens_intercalate {g : String} (hg : isGlue g = true) (xs : List String) :
    tokens (g.intercalate xs) = xs.flatMap tokens := by
  induction xs with
  | nil => rfl
  | cons x xs ih =>
    -- The separator stands between two texts, so the last one is a case of its own.
    cases xs with
    | nil => rw [String.intercalate_singleton, List.flatMap_singleton]
    | cons y ys =>
      rw [String.intercalate_cons_cons, tokens_glue hg, ih]
      rfl

/-! ## Names -/

theorem isWord_of_mem {w : String} (h : Text.isWordText w = true) {c : Char}
    (hc : c ∈ w.toList) : Text.isWord c = true := by
  rw [Text.isWordText, Bool.and_eq_true, List.all_eq_true] at h
  exact h.2 c hc

/-- What is no word character is not in a word. -/
theorem not_mem_of_isWordText {w : String} (h : Text.isWordText w = true) {c : Char}
    (hc : Text.isWord c = false) : c ∉ w.toList := by
  intro hmem
  rw [isWord_of_mem h hmem] at hc
  exact Bool.noConfusion hc

theorem exists_cons_of_isWordText {w : String} (h : Text.isWordText w = true) :
    ∃ c cs, w.toList = c :: cs := by
  rw [Text.isWordText, Bool.and_eq_true, Bool.not_eq_true', List.isEmpty_eq_false_iff] at h
  exact List.exists_cons_of_ne_nil h.1

/-- An at sign with a word behind it is one placeholder. -/
theorem tokens_at_word {w : String} (h : Text.isWordText w = true) :
    tokens ("@" ++ w) = ["@" ++ w] := by
  obtain ⟨c, cs, hw⟩ := exists_cons_of_isWordText h
  -- The placeholder takes all characters of the word …
  have hall : (c :: cs).takeWhile Text.isWord = c :: cs := by
    rw [List.takeWhile_eq_self_iff]
    intro d hd
    exact isWord_of_mem h (hw ▸ hd)
  -- … and none begins inside it.
  have hrest : tokenChars (c :: cs) = [] := by
    rw [← List.append_nil (c :: cs), ← hw,
      tokenChars_append_of_not_mem (not_mem_of_isWordText h isWord_at)]
    rfl
  have hat : ("@" ++ w).toList = '@' :: c :: cs := by
    rw [String.toList_append, hw]
    rfl
  rw [tokens, hat, tokenChars, if_pos rfl, hall, hrest, List.map_singleton, ← hat,
    String.ofList_toList]

theorem clean_at (s : String) : clean ("@" ++ s) = clean s := by
  rw [clean, String.toList_append]
  rfl

private theorem filter_backtick_of_isWordText {w : String} (h : Text.isWordText w = true) :
    w.toList.filter (· ≠ Char.ofNat 0x60) = w.toList := by
  rw [List.filter_eq_self]
  intro d hd
  rw [decide_eq_true_eq]
  rintro rfl
  exact not_mem_of_isWordText h isWord_backtick hd

/-- A word is a clean name. -/
theorem clean_of_isWordText {w : String} (h : Text.isWordText w = true) : clean w = w := by
  obtain ⟨c, cs, hw⟩ := exists_cons_of_isWordText h
  -- There is no at sign to drop from the front.
  have hc : c ≠ '@' := by
    rintro rfl
    exact not_mem_of_isWordText h isWord_at (hw ▸ List.mem_cons_self)
  have hdrop : w.toList.dropWhile (· = '@') = w.toList := by
    rw [hw, List.dropWhile_cons, if_neg (by rwa [decide_eq_true_eq])]
  rw [clean, hdrop, filter_backtick_of_isWordText h, String.ofList_toList]

/-- A word loses the backticks around it. -/
theorem clean_backticked {w : String} (h : Text.isWordText w = true) :
    clean ("`" ++ w ++ "`") = w := by
  have hchars : ("`" ++ w ++ "`").toList =
      Char.ofNat 0x60 :: (w.toList ++ [Char.ofNat 0x60]) := by
    rw [String.toList_append, String.toList_append]
    rfl
  -- The first backtick stops the search for at signs, then both are filtered out.
  have hdrop : (Char.ofNat 0x60 :: (w.toList ++ [Char.ofNat 0x60])).dropWhile (· = '@') =
      Char.ofNat 0x60 :: (w.toList ++ [Char.ofNat 0x60]) :=
    List.dropWhile_cons_of_neg (by decide)
  have hfilter : (Char.ofNat 0x60 :: (w.toList ++ [Char.ofNat 0x60])).filter
      (· ≠ Char.ofNat 0x60) = w.toList := by
    rw [List.filter_cons_of_neg (by decide), List.filter_append,
      filter_backtick_of_isWordText h, List.filter_cons_of_neg (by decide), List.filter_nil,
      List.append_nil]
  rw [clean, hchars, hdrop, hfilter, String.ofList_toList]

end SqlAssembly.Placeholder
