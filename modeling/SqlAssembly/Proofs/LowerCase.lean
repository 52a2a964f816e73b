import SqlAssembly.Text.Ascii
import SqlAssembly.Text.Lowercase

/-! # Lower case is stable and blind to the case of ASCII letters

Lower-casing has a rule for the capital letters of ASCII, for the capital I with a dot, and for the
code points in the ranges of a table.  No rule makes a character that has a rule: the code points
that a range shifts to are in no range, which the ends and steps of the ranges tell.  So a text in
lower case has no character with a rule, not even a capital sigma, and its context does not matter.

An ASCII letter in the other case has the same lower-case form, and it means the same to a sigma
next to it.  So texts that are equal but for the case of ASCII letters have the same lower case.

* `Text.StepRange.isApart`       ranges that have no code point in common
* `Text.hasRule`                 the characters that lower-casing has a rule for
* `Text.not_hasRule_of_mem_lowercase`   none of them is in a text in lower case
* `Text.lowercase_lowercase`     lower-casing a second time changes nothing
* `Text.lowerFrom_map_toLower`   neither a character nor its context needs the case of ASCII letters
* `Text.lowercase_congr`         texts equal but for that case have the same lower case -/

namespace SqlAssembly.Text

variable {code : Nat} {c d : Char} {cs before : List Char} {a b s : String}

/-! ## Ranges without a common code point -/

section

variable {r s : StepRange}

theorem StepRange.contains_iff :
    r.contains code = true ↔
      r.first ≤ code ∧ code ≤ r.last ∧ (code - r.first) % r.step = 0 := by
  simp only [contains, Bool.and_eq_true, decide_eq_true_eq, and_assoc]

/-- All code points of a range leave the same remainder. -/
private theorem StepRange.mod_step_of_contains (h : r.contains code = true) :
    code % r.step = r.first % r.step := by
  obtain ⟨hfirst, -, hstep⟩ := contains_iff.1 h
  have hsum : code = r.first + (code - r.first) := by omega
  rw [hsum, Nat.add_mod, hstep, Nat.add_zero, Nat.mod_mod]

/-- Whether the ends and steps of two ranges tell that no code point is in both: one range ends
    before the other begins, or the first one stays between the steps of the second. -/
def StepRange.isApart (r s : StepRange) : Bool :=
  r.last.blt s.first || s.last.blt r.first ||
    ((r.first == r.last || r.step % s.step == 0) && r.first % s.step != s.first % s.step)

private theorem StepRange.contains_eq_false_of_isApart (h : r.isApart s = true)
    (hr : r.contains code = true) : s.contains code = false := by
  obtain ⟨hrfirst, hrlast, hrstep⟩ := contains_iff.1 hr
  cases hs : s.contains code with
  | false => rfl
  | true =>
    obtain ⟨hsfirst, hslast, -⟩ := contains_iff.1 hs
    have hmod := mod_step_of_contains hs
    simp only [isApart, Bool.or_eq_true, Bool.and_eq_true, Nat.blt_eq, beq_iff_eq, bne_iff_ne] at h
    rcases h with (h | h) | ⟨hone | hsteps, hne⟩
    · -- the first range ends before the second one begins
      omega
    · -- the second range ends before the first one begins
      omega
    · -- the first range is a single code point
      have hcode : code = r.first := by omega
      exact absurd (hcode ▸ hmod) hne
    · -- Steps of the first range are steps of the second one.
      have hdvd : s.step ∣ code - r.first :=
        Nat.dvd_trans (Nat.dvd_of_mod_eq_zero hsteps) (Nat.dvd_of_mod_eq_zero hrstep)
      have hsum : code = r.first + (code - r.first) := by omega
      rw [hsum, Nat.add_mod, Nat.mod_eq_zero_of_dvd hdvd, Nat.add_zero, Nat.mod_mod] at hmod
      exact absurd hmod hne

end

/-- The code points that a range shifts to. -/
def ShiftRange.image (r : ShiftRange) : StepRange :=
  ⟨(r.first + r.shift).toNat, (r.last + r.shift).toNat, r.step⟩

private theorem ShiftRange.contains_image {r : ShiftRange} (hfirst : 0 ≤ r.first + r.shift)
    (h : r.domain.contains code = true) : r.image.contains (code + r.shift).toNat = true := by
  obtain ⟨hle, hlast, hstep⟩ := StepRange.contains_iff.1 h
  simp only [domain] at hle hlast hstep
  -- A shift keeps the distance to the first code point, so the steps are kept.
  have hdiff : (code + r.shift).toNat - (r.first + r.shift).toNat = code - r.first := by omega
  rw [StepRange.contains_iff]
  simp only [image, hdiff]
  omega

/-! ## Characters with a rule -/

/-- The code points that lower-casing has a rule for. -/
def ruledRanges : List StepRange :=
  ⟨0x41, 0x5A, 1⟩ :: ⟨0x130, 0x130, 1⟩ :: lowerRanges.map ShiftRange.domain

/-- Whether lower-casing has a rule for the character. -/
def hasRule (c : Char) : Bool := inSteps ruledRanges c.toNat

theorem hasRule_iff :
    hasRule c = true ↔
      (65 ≤ c.toNat ∧ c.toNat ≤ 90) ∨ c.toNat = 0x130 ∨
        ∃ r ∈ lowerRanges, r.domain.contains c.toNat = true := by
  have hdotted : 0x130 ≤ c.toNat ∧ c.toNat ≤ 0x130 ↔ c.toNat = 0x130 := by omega
  simp only [hasRule, inSteps, ruledRanges, List.any_cons, List.any_map, Bool.or_eq_true,
    List.any_eq_true, StepRange.contains_iff, Nat.mod_one, and_true, Function.comp_apply, hdotted]

/-- What lower-casing needs of its table: no range reaches down to ASCII, and each shifts to code
    points of characters that are in no range.  The table is checked range by range, which takes far
    fewer steps than code point by code point. -/
private theorem lowerRanges_checked :
    (lowerRanges.all fun r => 0x80 ≤ r.first && 0 ≤ r.first + r.shift &&
      (r.image.last < 0xD800 || 0xE000 ≤ r.image.first && r.image.last < 0x110000) &&
      ruledRanges.all fun s => r.image.isApart s) = true := by
  decide +kernel

section

variable {r : ShiftRange}

private theorem le_first (hr : r ∈ lowerRanges) : 0x80 ≤ r.first := by
  have hchecked := List.all_eq_true.1 lowerRanges_checked r hr
  simp only [Bool.and_eq_true, decide_eq_true_eq] at hchecked
  exact hchecked.1.1.1

/-- Shifted code points are those of characters. -/
private theorem isValidChar_image (hr : r ∈ lowerRanges) :
    0 ≤ r.first + r.shift ∧
      (r.image.last < 0xD800 ∨ 0xE000 ≤ r.image.first ∧ r.image.last < 0x110000) := by
  have hchecked := List.all_eq_true.1 lowerRanges_checked r hr
  simp only [Bool.and_eq_true, Bool.or_eq_true, decide_eq_true_eq] at hchecked
  exact ⟨hchecked.1.1.2, hchecked.1.2⟩

/-- No range shifts a code point to one with a rule. -/
private theorem inSteps_image (hr : r ∈ lowerRanges) (hcode : r.image.contains code = true) :
    inSteps ruledRanges code = false := by
  have hchecked := List.all_eq_true.1 lowerRanges_checked r hr
  have hapart := List.all_eq_true.1 (Bool.and_eq_true_iff.1 hchecked).2
  refine List.any_eq_false.2 fun s hs => ?_
  rw [StepRange.contains_eq_false_of_isApart (hapart s hs) hcode]
  exact Bool.false_ne_true

end

/-- The capital sigma has a rule; the letters that take the place of characters have none. -/
private theorem hasRule_special :
    hasRule capitalSigma = true ∧ hasRule (Char.ofNat 0x3C2) = false ∧
      hasRule 'i' = false ∧ hasRule (Char.ofNat 0x307) = false := by
  decide +kernel

private theorem toNat_ofNat (h : code.isValidChar) : (Char.ofNat code).toNat = code := by
  rw [Char.ofNat, dif_pos h]
  rfl

private theorem toLower_eq_self (h : ¬ (65 ≤ c.toNat ∧ c.toNat ≤ 90)) : c.toLower = c :=
  Char.toNat_inj.1 ((toNat_toLower c).trans (if_neg h))

/-- A character without a rule is its own lower-case form. -/
private theorem lowerChar_of_not_hasRule (h : hasRule c = false) : lowerChar c = [c] := by
  rw [← Bool.not_eq_true, hasRule_iff, not_or, not_or] at h
  obtain ⟨hupper, hdot, hranges⟩ := h
  rw [lowerChar, if_neg hdot, toLower_eq_self hupper, lowerCode, shiftCode]
  split
  · rfl
  · -- No range has the code point, so the table leaves it alone.
    have hnone : lowerRanges.find? (·.domain.contains c.toNat) = none :=
      List.find?_eq_none.2 fun r hr hcontains => hranges ⟨r, hr, hcontains⟩
    rw [hnone, Char.ofNat_toNat]

private theorem not_hasRule_toLower (h : c.toNat < 0x80) : hasRule c.toLower = false := by
  have hlower := toNat_toLower c
  rw [← Bool.not_eq_true, hasRule_iff]
  -- The lower-case letters of ASCII are neither capitals nor in the table.
  rintro (hupper | hdot | ⟨r, hr, hdomain⟩)
  · split at hlower <;> omega
  · split at hlower <;> omega
  · have hfirst := le_first hr
    have hle : r.first ≤ c.toLower.toNat := (StepRange.contains_iff.1 hdomain).1
    split at hlower <;> omega

private theorem not_hasRule_ofNat_lowerCode (hascii : ¬ c.toNat < 0x80) (hdot : c.toNat ≠ 0x130) :
    hasRule (Char.ofNat (lowerCode c.toNat)) = false := by
  rw [lowerCode, shiftCode]
  split
  · -- A shifted code point is in the image of its range, which no rule reaches.
    rename_i r hfind
    have hr := List.mem_of_find?_eq_some hfind
    have hdomain := List.find?_some hfind
    obtain ⟨hfirst, hvalid⟩ := isValidChar_image hr
    have himage := r.contains_image hfirst hdomain
    obtain ⟨hle, hlast, -⟩ := StepRange.contains_iff.1 himage
    have hchar : (c.toNat + r.shift).toNat.isValidChar := by
      simp only [Nat.isValidChar]
      omega
    rw [hasRule, toNat_ofNat hchar]
    exact inSteps_image hr himage
  · -- What no range shifts has no other rule either.
    rename_i hfind
    rw [Char.ofNat_toNat, ← Bool.not_eq_true, hasRule_iff]
    rintro (hupper | hdot' | ⟨r, hr, hdomain⟩)
    · omega
    · exact hdot hdot'
    · exact List.find?_eq_none.1 hfind r hr hdomain

/-- No rule makes a character with a rule. -/
private theorem not_hasRule_of_mem_lowerChar (h : d ∈ lowerChar c) : hasRule d = false := by
  rw [lowerChar] at h
  split at h
  · rename_i hascii
    obtain rfl := List.mem_singleton.1 h
    exact not_hasRule_toLower hascii
  · split at h
    · simp only [List.mem_cons, List.not_mem_nil, or_false] at h
      rcases h with rfl | rfl
      · exact hasRule_special.2.2.1
      · exact hasRule_special.2.2.2
    · rename_i hascii hdot
      obtain rfl := List.mem_singleton.1 h
      exact not_hasRule_ofNat_lowerCode hascii hdot

/-! ## Lower case is stable -/

private theorem not_hasRule_of_mem_lowerFrom (h : d ∈ lowerFrom before cs) : hasRule d = false := by
  induction cs generalizing before with
  | nil => exact absurd h List.not_mem_nil
  | cons c cs ih =>
    rw [lowerFrom, List.mem_append] at h
    cases h with
    | inr h => exact ih h
    | inl h =>
      split at h
      · -- A capital sigma became a final one.
        obtain rfl := List.mem_singleton.1 h
        exact hasRule_special.2.1
      · exact not_hasRule_of_mem_lowerChar h

theorem not_hasRule_of_mem_lowercase (h : d ∈ (lowercase s).toList) : hasRule d = false := by
  rw [lowercase, String.toList_ofList] at h
  exact not_hasRule_of_mem_lowerFrom h

/-- Only a capital sigma looks at its context, and it has a rule. -/
private theorem lowerFrom_eq_self (h : ∀ c ∈ cs, hasRule c = false) : lowerFrom before cs = cs := by
  induction cs generalizing before with
  | nil => rfl
  | cons c cs ih =>
    obtain ⟨hc, hcs⟩ := List.forall_mem_cons.1 h
    -- A sigma without a rule would be no capital one.
    have hsigma : ¬ (c = capitalSigma ∧ isFinal before cs = true) := by
      rintro ⟨rfl, -⟩
      exact Bool.noConfusion (hc.symm.trans hasRule_special.1)
    rw [lowerFrom, if_neg hsigma, lowerChar_of_not_hasRule hc, ih hcs, List.singleton_append]

/-- Lower-casing a second time changes nothing. -/
theorem lowercase_lowercase (s : String) : lowercase (lowercase s) = lowercase s := by
  have hself : lowerFrom [] (lowercase s).toList = (lowercase s).toList :=
    lowerFrom_eq_self fun _ => not_hasRule_of_mem_lowercase
  rw [lowercase, hself, String.ofList_toList]

/-! ## Lower case is blind to the case of ASCII letters -/

/-- What lower-casing asks about a character. -/
def traits (c : Char) : List Char × Bool × Bool × Bool :=
  (lowerChar c, isCased c, isCaseIgnorable c, c == capitalSigma)

/-- It asks nothing that tells an ASCII letter from its lower-case form. -/
private theorem traits_toLower (c : Char) : traits c.toLower = traits c := by
  -- Outside ASCII nothing is lowered, and inside there are few enough to check.
  have hcodes : ∀ n < 0x80, traits (Char.ofNat n).toLower = traits (Char.ofNat n) := by
    decide +kernel
  by_cases hascii : c.toNat < 0x80
  · have hc := hcodes c.toNat hascii
    rwa [Char.ofNat_toNat] at hc
  · rw [toLower_eq_self (by omega)]

theorem lowerChar_toLower (c : Char) : lowerChar c.toLower = lowerChar c :=
  congrArg (·.1) (traits_toLower c)

theorem isCased_toLower (c : Char) : isCased c.toLower = isCased c :=
  congrArg (·.2.1) (traits_toLower c)

theorem isCaseIgnorable_toLower (c : Char) : isCaseIgnorable c.toLower = isCaseIgnorable c :=
  congrArg (·.2.2.1) (traits_toLower c)

private theorem toLower_eq_capitalSigma_iff : c.toLower = capitalSigma ↔ c = capitalSigma := by
  have hsigma : (c.toLower == capitalSigma) = (c == capitalSigma) :=
    congrArg (·.2.2.2) (traits_toLower c)
  rw [← beq_iff_eq, hsigma, beq_iff_eq]

private theorem meetsCased_map_toLower (cs : List Char) :
    meetsCased (cs.map Char.toLower) = meetsCased cs := by
  -- The run of ignorable characters ends at the same place.
  have hignore : isCaseIgnorable ∘ Char.toLower = isCaseIgnorable :=
    funext isCaseIgnorable_toLower
  rw [meetsCased, meetsCased, List.dropWhile_map, hignore]
  cases cs.dropWhile isCaseIgnorable with
  | nil => rfl
  | cons c cs => exact isCased_toLower c

/-- Neither a character nor its context needs the case of ASCII letters. -/
theorem lowerFrom_map_toLower (before cs : List Char) :
    lowerFrom (before.map Char.toLower) (cs.map Char.toLower) = lowerFrom before cs := by
  induction cs generalizing before with
  | nil => rfl
  | cons c cs ih =>
    have hbefore : c.toLower :: before.map Char.toLower = (c :: before).map Char.toLower := rfl
    -- The context of a sigma is asked for cased and ignorable characters only.
    have hfinal : isFinal (before.map Char.toLower) (cs.map Char.toLower) = isFinal before cs := by
      rw [isFinal, isFinal, meetsCased_map_toLower, meetsCased_map_toLower]
    rw [List.map_cons, lowerFrom, lowerFrom, hbefore, ih, hfinal, lowerChar_toLower]
    simp only [toLower_eq_capitalSigma_iff]

/-- Texts that are equal but for the case of ASCII letters have the same lower case. -/
theorem lowercase_congr (h : equalUpToCase a b = true) : lowercase a = lowercase b := by
  have hascii : ∀ s : String, lowercase s = String.ofList (lowerFrom [] (lowerAscii s)) := fun s =>
    congrArg String.ofList (lowerFrom_map_toLower [] s.toList).symm
  rw [hascii, hascii, equalUpToCase_iff.1 h]

end SqlAssembly.Text
