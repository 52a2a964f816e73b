import Mathlib.Data.List.Induction
import Mathlib.Tactic.SplitIfs
import SqlAssembly.Proofs.EnumerationValues
import SqlAssembly.Proofs.IntegerNarrowing

/-! # Numerals in a radix

A numeral may have a sign, which stands in front, and behind it the mark of its radix.  It is read
in two steps: a minus sign and the mark are taken off, and what is left is read as an integer of 64
bits, which may have a sign of its own.  So the reader is right about all numerals but those of the
least integer, whose opposite 64 bits do not hold; and besides numerals it takes texts with a sign
too many, behind the minus sign or behind the mark.

* `Numeral.Spells`          the digits of a natural number, letters in either case
* `Numeral.spells_text`     the printer writes such digits
* `Numeral.IsNumeral`       a sign or none, perhaps the mark of the radix, then digits
* `Numeral.HasExcessSign`   the texts with a sign too many, and what they are read as
* `Numeral.IsTextOf`        the texts of an integer
* `readRadix64?_eq_some_iff_isNumeral`   the reader on texts without white space at the ends
* `readRadix64?_reads_numerals`          what the reader makes of all texts -/

namespace SqlAssembly

namespace Numeral

variable {radix m : Nat} {cs ds : List Char} {n : Int}

/-! ## Digits -/

/-- A digit worth `d` in `radix`: from ten on a letter, in either case. -/
def IsDigitOf (radix : Nat) (c : Char) (d : Nat) : Prop := d < radix ∧ c.toLower = digitChar d

/-- The digits of a natural number, in positional notation. -/
inductive Spells (radix : Nat) : List Char → Nat → Prop
  | digit {c : Char} {d : Nat} (h : IsDigitOf radix c d) : Spells radix [c] d
  | append {cs : List Char} {c : Char} {m d : Nat} (hcs : Spells radix cs m)
    (h : IsDigitOf radix c d) : Spells radix (cs ++ [c]) (m * radix + d)

private theorem toNat_digitChar_eq :
    ∀ d < 36, (digitChar d).toNat = if d < 10 then 48 + d else 87 + d := by
  decide

private theorem toLower_digitChar : ∀ d < 36, (digitChar d).toLower = digitChar d := by decide

private theorem isDigitOf_iff (h36 : radix ≤ 36) {c : Char} {d : Nat} :
    IsDigitOf radix c d ↔ d < radix ∧ c.toLower.toNat = if d < 10 then 48 + d else 87 + d := by
  refine and_congr_right fun hd => ?_
  rw [← toNat_digitChar_eq d (Nat.lt_of_lt_of_le hd h36)]
  exact Char.toNat_inj.symm

theorem digitValue?_eq_some_iff (h36 : radix ≤ 36) {c : Char} {d : Nat} :
    digitValue? radix c = some d ↔ IsDigitOf radix c d := by
  rw [isDigitOf_iff h36, Text.toNat_toLower]
  simp only [digitValue?, Option.filter_eq_some_iff, decide_eq_true_eq]
  -- The three ranges of digits and letters, one after the other.
  split_ifs <;> simp only [Option.some.injEq, false_and, false_iff] <;> omega

/-- A digit or a letter of ASCII. -/
def IsAsciiAlphanumeric (c : Char) : Prop :=
  48 ≤ c.toNat ∧ c.toNat ≤ 57 ∨ 65 ≤ c.toNat ∧ c.toNat ≤ 90 ∨ 97 ≤ c.toNat ∧ c.toNat ≤ 122

instance : DecidablePred IsAsciiAlphanumeric := fun c =>
  inferInstanceAs (Decidable (48 ≤ c.toNat ∧ c.toNat ≤ 57 ∨ _ ∨ _))

private theorem IsAsciiAlphanumeric.isNoSign {c : Char} (h : IsAsciiAlphanumeric c) :
    c ≠ '+' ∧ c ≠ '-' := by
  constructor
  · rintro rfl
    exact absurd h (by decide : ¬ IsAsciiAlphanumeric '+')
  · rintro rfl
    exact absurd h (by decide : ¬ IsAsciiAlphanumeric '-')

private theorem IsAsciiAlphanumeric.not_isBlank {c : Char} (h : IsAsciiAlphanumeric c) :
    Text.isBlank c = false := by
  simp only [Text.isBlank, Bool.or_eq_false_iff, Bool.and_eq_false_iff, decide_eq_false_iff_not]
  unfold IsAsciiAlphanumeric at h
  omega

private theorem IsDigitOf.isAsciiAlphanumeric (h36 : radix ≤ 36) {c : Char} {d : Nat}
    (h : IsDigitOf radix c d) : IsAsciiAlphanumeric c := by
  rw [isDigitOf_iff h36, Text.toNat_toLower] at h
  obtain ⟨hd, hc⟩ := h
  unfold IsAsciiAlphanumeric
  -- A digit below ten is a digit, and another one is a letter in either case.
  split at hc <;> split at hc <;> omega

/-! ## Runs of digits -/

private theorem readFrom?_append (acc : Nat) (cs : List Char) (c : Char) :
    readFrom? radix acc (cs ++ [c]) =
      (readFrom? radix acc cs).bind fun m => (digitValue? radix c).map (m * radix + ·) := by
  induction cs generalizing acc with
  | nil =>
    simp only [List.nil_append, readFrom?, Option.bind_some]
    cases digitValue? radix c <;> rfl
  | cons d cs ih =>
    simp only [List.cons_append, readFrom?, Option.bind_assoc]
    -- The first digit is read alike on both sides.
    exact Option.bind_congr fun v _ => ih _

/-- The reader accepts runs of digits and nothing else. -/
theorem read?_eq_some_iff_spells (h36 : radix ≤ 36) :
    read? radix cs = some m ↔ Spells radix cs m := by
  -- Only the empty text is treated in a way of its own.
  have hread : ∀ cs : List Char, cs ≠ [] → read? radix cs = readFrom? radix 0 cs := fun cs hcs =>
    if_neg (by simpa using hcs)
  constructor
  · -- The last digit is the one that counts least, so the induction is from the end.
    induction cs using List.reverseRecOn generalizing m with
    | nil => exact nofun
    | append_singleton cs c ih =>
      intro h
      rw [hread _ (by simp), readFrom?_append, Option.bind_eq_some_iff] at h
      obtain ⟨k, hk, h⟩ := h
      obtain ⟨d, hd, rfl⟩ := Option.map_eq_some_iff.1 h
      have hdigit := (digitValue?_eq_some_iff h36).1 hd
      cases cs with
      | nil =>
        obtain rfl := Option.some.inj hk
        rw [Nat.zero_mul, Nat.zero_add]
        exact .digit hdigit
      | cons b bs =>
        exact .append (ih ((hread _ (List.cons_ne_nil b bs)).trans hk)) hdigit
  · intro h
    induction h with
    | @digit c d h =>
      have hvalue := (digitValue?_eq_some_iff h36).2 h
      simp [read?, readFrom?, hvalue]
    | @append cs c m d hcs h ih =>
      have hvalue := (digitValue?_eq_some_iff h36).2 h
      -- What spells a number is not empty, so nothing is lost in front of the last digit.
      have hne : cs ≠ [] := by
        rintro rfl
        exact nomatch ih
      rw [hread cs hne] at ih
      rw [hread _ (by simp), readFrom?_append, ih, Option.bind_some, hvalue, Option.map_some]

theorem Spells.ne_nil (h : Spells radix cs m) : cs ≠ [] := by
  cases h <;> simp

private theorem Spells.isDigitOf_of_mem (h : Spells radix cs m) {c : Char} (hc : c ∈ cs) :
    ∃ d, IsDigitOf radix c d := by
  induction h with
  | digit h =>
    obtain rfl := List.mem_singleton.1 hc
    exact ⟨_, h⟩
  | append _ h ih =>
    rcases List.mem_append.1 hc with hc | hc
    · exact ih hc
    · obtain rfl := List.mem_singleton.1 hc
      exact ⟨_, h⟩

private theorem Spells.isAsciiAlphanumeric_of_mem (h36 : radix ≤ 36) (h : Spells radix cs m)
    {c : Char} (hc : c ∈ cs) : IsAsciiAlphanumeric c := by
  obtain ⟨d, hd⟩ := h.isDigitOf_of_mem hc
  exact hd.isAsciiAlphanumeric h36

/-- The printer writes the digits of a number. -/
theorem spells_text (h2 : 2 ≤ radix) (h36 : radix ≤ 36) (n : Nat) :
    Spells radix (text radix n) n := by
  have hdigit : ∀ d < radix, IsDigitOf radix (digitChar d) d := fun d hd =>
    ⟨hd, toLower_digitChar d (Nat.lt_of_lt_of_le hd h36)⟩
  induction n using Nat.strongRecOn with
  | ind n ih =>
    rw [text]
    split
    · rename_i hn
      exact .digit (hdigit n (by omega))
    · rename_i hn
      -- The printer puts the last digit behind those of the quotient, which is smaller.
      have hsmall : n / radix < n := Nat.div_lt_self (by omega) (by omega)
      have happend := Spells.append (ih _ hsmall) (hdigit _ (Nat.mod_lt n (by omega)))
      rwa [Nat.mul_comm, Nat.div_add_mod] at happend

/-- The case of letters does not count. -/
private theorem Spells.of_map_toLower (h : Spells radix (ds.map Char.toLower) m) :
    Spells radix ds m := by
  generalize hcs : ds.map Char.toLower = cs at h
  -- A letter in lower case stays as it is.
  have hlower : ∀ c : Char, c.toLower.toLower = c.toLower := fun c => by
    apply Char.toNat_inj.1
    rw [Text.toNat_toLower, Text.toNat_toLower]
    exact if_neg (by split <;> omega)
  induction h generalizing ds with
  | @digit c d h =>
    obtain ⟨e, rfl, rfl⟩ := List.map_eq_singleton_iff.1 hcs
    exact .digit ⟨h.1, (hlower e).symm.trans h.2⟩
  | @append cs c m d _ h ih =>
    obtain ⟨es, fs, rfl, hes, hfs⟩ := List.map_eq_append_iff.1 hcs
    obtain ⟨e, rfl, rfl⟩ := List.map_eq_singleton_iff.1 hfs
    exact .append (ih hes) ⟨h.1, (hlower e).symm.trans h.2⟩

/-! ## Signs -/

/-- A sign or none, then digits. -/
inductive IsSigned (radix : Nat) : List Char → Int → Prop
  | unsigned {ds : List Char} {m : Nat} (h : Spells radix ds m) : IsSigned radix ds m
  | plus {ds : List Char} {m : Nat} (h : Spells radix ds m) : IsSigned radix ('+' :: ds) m
  | minus {ds : List Char} {m : Nat} (h : Spells radix ds m) :
    IsSigned radix ('-' :: ds) (-(m : Int))

/-- A signed numeral has digits only, or digits behind a sign. -/
private theorem IsSigned.eq_or (h : IsSigned radix cs n) :
    (∃ m : Nat, Spells radix cs m ∧ n = m) ∨
      ∃ ds, ∃ m : Nat, Spells radix ds m ∧ (cs = '+' :: ds ∧ n = m ∨ cs = '-' :: ds ∧ n = -m) := by
  cases h with
  | unsigned h => exact .inl ⟨_, h, rfl⟩
  | plus h => exact .inr ⟨_, _, h, .inl ⟨rfl, rfl⟩⟩
  | minus h => exact .inr ⟨_, _, h, .inr ⟨rfl, rfl⟩⟩

/-- The reader accepts digits behind a sign or none and nothing else. -/
theorem readInt?_eq_some_iff_isSigned (h36 : radix ≤ 36) :
    readInt? radix true cs = some n ↔ IsSigned radix cs n := by
  -- What stands behind the sign is a run of digits in each case.
  have hmap : ∀ (cs : List Char) (f : Int → Int),
      ((do let k ← read? radix cs; pure (k : Int)).map f) = some n ↔
        ∃ m : Nat, Spells radix cs m ∧ f m = n := fun cs f => by
    rw [map_cast]
    simp only [Option.map_eq_some_iff, read?_eq_some_iff_spells h36]
  constructor
  · intro h
    unfold readInt? at h
    split at h
    · obtain ⟨k, hk, rfl⟩ := (hmap _ id).1 h
      exact .plus hk
    · rw [if_pos rfl] at h
      obtain ⟨k, hk, rfl⟩ := (hmap _ (- ·)).1 h
      exact .minus hk
    · obtain ⟨k, hk, heq⟩ := (hmap cs id).1 h
      exact heq ▸ .unsigned hk
  · intro h
    cases h with
    | @unsigned ds m h =>
      unfold readInt?
      -- A first digit leads past both signs.
      split
      · exact absurd rfl (h.isAsciiAlphanumeric_of_mem h36 List.mem_cons_self).isNoSign.1
      · exact absurd rfl (h.isAsciiAlphanumeric_of_mem h36 List.mem_cons_self).isNoSign.2
      · exact (hmap cs id).2 ⟨m, h, rfl⟩
    | @plus ds m h => exact (hmap ds id).2 ⟨m, h, rfl⟩
    | @minus ds m h => exact (hmap ds (- ·)).2 ⟨m, h, rfl⟩

/-! ## Marks -/

/-- A sign or none, perhaps the mark of the radix, then digits. -/
inductive IsNumeral (radix : Nat) : List Char → Int → Prop
  | plus {ds : List Char} {m : Nat} (h : Spells radix ds m) : IsNumeral radix ('+' :: ds) m
  | unsigned {mark ds : List Char} {m : Nat} (hmark : mark ∈ [] :: radixMarks radix)
    (h : Spells radix ds m) : IsNumeral radix (mark ++ ds) m
  | minus {mark ds : List Char} {m : Nat} (hmark : mark ∈ [] :: radixMarks radix)
    (h : Spells radix ds m) : IsNumeral radix ('-' :: (mark ++ ds)) (-(m : Int))

/-- A sign behind the mark of the radix or behind a minus sign, and the integer of 64 bits that the
    text is read as.  Two minus signs cancel, but for the least integer, which has no opposite. -/
inductive HasExcessSign (radix : Nat) : List Char → IntWidth.int64.Carrier → Prop
  | marked {mark ds : List Char} {sign : Char} {k : IntWidth.int64.Carrier}
    (hmark : mark ∈ radixMarks radix) (hsign : sign = '+' ∨ sign = '-')
    (h : IsSigned radix (sign :: ds) k.val) : HasExcessSign radix (mark ++ sign :: ds) k
  | doubled {mark ds : List Char} {sign : Char} {k : IntWidth.int64.Carrier}
    (hmark : mark ∈ [] :: radixMarks radix) (hsign : sign = '+' ∨ sign = '-')
    (h : IsSigned radix (sign :: ds) k.val) :
    HasExcessSign radix ('-' :: (mark ++ sign :: ds)) (IntWidth.int64.wrap (-k.val))

private theorem mem_radixMarks {mark : List Char} (h : mark ∈ radixMarks radix) :
    radix = 16 ∧ (mark = ['0', 'x'] ∨ mark = ['0', 'X']) ∨
      radix = 2 ∧ (mark = ['0', 'b'] ∨ mark = ['0', 'B']) := by
  unfold radixMarks at h
  split at h
  · exact .inl ⟨‹_›, by simpa using h⟩
  · split at h
    · exact .inr ⟨‹_›, by simpa using h⟩
    · exact absurd h List.not_mem_nil

/-- A mark is a nought and a letter that is no digit of the radix. -/
private theorem exists_eq_of_mem_radixMarks {mark : List Char} (h : mark ∈ radixMarks radix) :
    ∃ c, mark = ['0', c] ∧ IsAsciiAlphanumeric c ∧ digitValue? radix c = none := by
  rcases mem_radixMarks h with ⟨rfl, rfl | rfl⟩ | ⟨rfl, rfl | rfl⟩ <;>
    exact ⟨_, rfl, by decide, by decide⟩

/-- Of two marks neither leads the other, so the one in front of a text is found. -/
private theorem dropMark_append {mark : List Char} (h : mark ∈ radixMarks radix) (cs : List Char) :
    dropMark (radixMarks radix) (mark ++ cs) = cs := by
  rcases mem_radixMarks h with ⟨rfl, rfl | rfl⟩ | ⟨rfl, rfl | rfl⟩ <;> rfl

/-- What is dropped is a mark or nothing. -/
private theorem exists_eq_append_dropMark (marks : List (List Char)) (cs : List Char) :
    ∃ mark ∈ [] :: marks, cs = mark ++ dropMark marks cs := by
  unfold dropMark
  split
  · rename_i mark hfind
    -- A mark that is found stands in front.
    have hfront : mark.isPrefixOf cs = true := (List.find?_some hfind :)
    obtain ⟨rest, rfl⟩ := List.isPrefixOf_iff_prefix.1 hfront
    exact ⟨mark, List.mem_cons_of_mem _ (List.mem_of_find?_eq_some hfind), by simp⟩
  · exact ⟨[], List.mem_cons_self, rfl⟩

/-- No mark stands in front of a signed numeral. -/
private theorem IsSigned.dropMark_eq (h36 : radix ≤ 36) (h : IsSigned radix cs n) :
    dropMark (radixMarks radix) cs = cs := by
  unfold dropMark
  split
  · rename_i mark hfind
    obtain ⟨c, rfl, -, hc⟩ := exists_eq_of_mem_radixMarks (List.mem_of_find?_eq_some hfind)
    have hfront : ['0', c].isPrefixOf cs = true := (List.find?_some hfind :)
    obtain ⟨rest, rfl⟩ := List.isPrefixOf_iff_prefix.1 hfront
    cases h with
    | unsigned h =>
      -- The letter of the mark would have to be a digit of the radix.
      have hmem : c ∈ ['0', c] ++ rest := List.mem_cons_of_mem _ List.mem_cons_self
      obtain ⟨d, hd⟩ := h.isDigitOf_of_mem hmem
      exact nomatch hc.symm.trans ((digitValue?_eq_some_iff h36).2 hd)
  · rfl

/-- The mark of the radix does not count in front of a signed numeral. -/
private theorem read?_dropMark_append (h36 : radix ≤ 36) {mark : List Char}
    (hmark : mark ∈ [] :: radixMarks radix) (h : IsSigned radix ds n) :
    IntWidth.int64.read? radix (dropMark (radixMarks radix) (mark ++ ds)) =
      IntWidth.int64.ofInt? n := by
  -- A mark is dropped, and where there is none nothing is.
  have hdrop : dropMark (radixMarks radix) (mark ++ ds) = ds := by
    rcases List.mem_cons.1 hmark with rfl | hmark
    · exact h.dropMark_eq h36
    · exact dropMark_append hmark ds
  have hread : readInt? radix IntWidth.int64.signed ds = some n :=
    (readInt?_eq_some_iff_isSigned h36).2 h
  rw [hdrop, IntWidth.read?, hread, Option.bind_some]

private theorem read?_dropMark_eq_some_iff (h36 : radix ≤ 36) {k : IntWidth.int64.Carrier} :
    IntWidth.int64.read? radix (dropMark (radixMarks radix) cs) = some k ↔
      ∃ mark ∈ [] :: radixMarks radix, ∃ ds, cs = mark ++ ds ∧ IsSigned radix ds k.val := by
  constructor
  · intro h
    obtain ⟨mark, hmark, heq⟩ := exists_eq_append_dropMark (radixMarks radix) cs
    rw [IntWidth.read?, Option.bind_eq_some_iff] at h
    obtain ⟨n, hread, hn⟩ := h
    -- The number that is read fits into 64 bits as it is.
    obtain rfl := IntWidth.ofInt?_eq_some_iff.1 hn
    exact ⟨mark, hmark, _, heq, (readInt?_eq_some_iff_isSigned h36).1 hread⟩
  · rintro ⟨mark, hmark, ds, rfl, h⟩
    rw [read?_dropMark_append h36 hmark h]
    exact IntWidth.int64.ofInt?_val k

/-- Marks and digits have digits and letters only. -/
private theorem isAsciiAlphanumeric_of_mem_append (h36 : radix ≤ 36) {mark : List Char}
    (hmark : mark ∈ [] :: radixMarks radix) (h : Spells radix ds m) {c : Char}
    (hc : c ∈ mark ++ ds) : IsAsciiAlphanumeric c := by
  rcases List.mem_append.1 hc with hc | hc
  · rcases List.mem_cons.1 hmark with rfl | hmark
    · exact absurd hc List.not_mem_nil
    · -- A mark is a nought and a letter.
      obtain ⟨e, rfl, he, -⟩ := exists_eq_of_mem_radixMarks hmark
      rcases List.mem_cons.1 hc with rfl | hc
      · exact (by decide : IsAsciiAlphanumeric '0')
      · rwa [List.mem_singleton.1 hc]
  · exact h.isAsciiAlphanumeric_of_mem h36 hc

/-- A numeral has no sign but in front. -/
private theorem IsNumeral.isNoSign_of_mem_tail (h36 : radix ≤ 36) (h : IsNumeral radix cs n)
    {c : Char} (hc : c ∈ cs.tail) : c ≠ '+' ∧ c ≠ '-' := by
  cases h with
  | plus h => exact (h.isAsciiAlphanumeric_of_mem h36 hc).isNoSign
  | unsigned hmark h =>
    exact (isAsciiAlphanumeric_of_mem_append h36 hmark h (List.mem_of_mem_tail hc)).isNoSign
  | minus hmark h => exact (isAsciiAlphanumeric_of_mem_append h36 hmark h hc).isNoSign

theorem IsNumeral.ne_nil (h : IsNumeral radix cs n) : cs ≠ [] := by
  cases h with
  | plus h => exact List.cons_ne_nil _ _
  | unsigned hmark h => exact List.append_ne_nil_of_right_ne_nil _ h.ne_nil
  | minus hmark h => exact List.cons_ne_nil _ _

/-- A numeral has no white space. -/
private theorem IsNumeral.not_isBlank_of_mem (h36 : radix ≤ 36) (h : IsNumeral radix cs n)
    {c : Char} (hc : c ∈ cs) : Text.isBlank c = false := by
  cases h with
  | plus h =>
    rcases List.mem_cons.1 hc with rfl | hc
    · decide
    · exact (h.isAsciiAlphanumeric_of_mem h36 hc).not_isBlank
  | unsigned hmark h => exact (isAsciiAlphanumeric_of_mem_append h36 hmark h hc).not_isBlank
  | minus hmark h =>
    rcases List.mem_cons.1 hc with rfl | hc
    · decide
    · exact (isAsciiAlphanumeric_of_mem_append h36 hmark h hc).not_isBlank

/-- The texts of an integer: a minus sign if it is negative, perhaps the mark of the radix, then the
    digits of its absolute value, letters in either case. -/
def IsTextOf (radix : Nat) (n : Int) (cs : List Char) : Prop :=
  ∃ mark ∈ [] :: radixMarks radix, ∃ ds, cs = (if n < 0 then ['-'] else []) ++ (mark ++ ds) ∧
    ds.map Char.toLower = text radix n.natAbs

private theorem IsTextOf.isNumeral (h2 : 2 ≤ radix) (h36 : radix ≤ 36) (h : IsTextOf radix n cs) :
    IsNumeral radix cs n := by
  obtain ⟨mark, hmark, ds, rfl, hds⟩ := h
  -- In lower case the digits are those that the printer writes.
  have hspells : Spells radix ds n.natAbs := .of_map_toLower (hds ▸ spells_text h2 h36 _)
  split
  · have hn : n = -(n.natAbs : Int) := by omega
    show IsNumeral radix ('-' :: (mark ++ ds)) n
    rw [hn]
    exact .minus hmark hspells
  · have hn : n = n.natAbs := by omega
    show IsNumeral radix (mark ++ ds) n
    rw [hn]
    exact .unsigned hmark hspells

private theorem HasExcessSign.exists_mem_tail {k : IntWidth.int64.Carrier}
    (h : HasExcessSign radix cs k) : ∃ c ∈ cs.tail, c = '+' ∨ c = '-' := by
  cases h with
  | @marked mark ds sign _ hmark hsign =>
    obtain ⟨c, rfl, -⟩ := exists_eq_of_mem_radixMarks hmark
    exact ⟨sign, List.mem_cons_of_mem c List.mem_cons_self, hsign⟩
  | @doubled mark ds sign _ hmark hsign =>
    exact ⟨sign, List.mem_append_right mark List.mem_cons_self, hsign⟩

end Numeral

/-! ## The reader -/

section

open Numeral

variable {radix : Nat} {s : String}

/-- A minus sign in front is taken off, and the integer behind it is negated. -/
private theorem readRadix64?_of_minus (h2 : 2 ≤ radix) (h36 : radix ≤ 36) {rest : List Char}
    (hs : Text.trimChars s.toList = '-' :: rest) :
    readRadix64? s radix =
      (IntWidth.int64.read? radix (dropMark (radixMarks radix) rest)).map fun k =>
        IntWidth.int64.wrap (-k.val) := by
  rw [readRadix64?, if_pos ⟨h2, h36⟩, hs]
  rfl

private theorem readRadix64?_of_ne_minus (h2 : 2 ≤ radix) (h36 : radix ≤ 36)
    (hs : ∀ rest, Text.trimChars s.toList ≠ '-' :: rest) :
    readRadix64? s radix =
      IntWidth.int64.read? radix (dropMark (radixMarks radix) (Text.trimChars s.toList)) := by
  rw [readRadix64?, if_pos ⟨h2, h36⟩]
  split
  rename_i negative unsigned heq
  -- The text is taken as it is, unless it begins with a minus sign.
  split at heq
  · rename_i rest hrest
    exact absurd hrest (hs rest)
  · obtain ⟨rfl, rfl⟩ := Prod.mk.inj heq
    exact Option.map_id'

/-- Digits behind a minus sign are read but for those of the opposite of the least integer. -/
private theorem wrap_neg_of_spells {k : IntWidth.int64.Carrier} {m : Nat} (hk : k.val = m) :
    (IntWidth.int64.wrap (-k.val)).val = -(m : Int) ∧
      (IntWidth.int64.wrap (-k.val)).val ≠ IntWidth.int64.lo := by
  have hlo : IntWidth.int64.lo = -9223372036854775808 := rfl
  have hhi : IntWidth.int64.hi = 9223372036854775807 := rfl
  -- A number that is not negative has an opposite of 64 bits.
  have hle := k.le_hi
  rw [IntWidth.wrap_of_mem ⟨by omega, by omega⟩]
  omega

/-- What is read is a numeral, or it has a sign too many. -/
private theorem isNumeral_or_hasExcessSign (h2 : 2 ≤ radix) (h36 : radix ≤ 36)
    {n : IntWidth.int64.Carrier} (h : readRadix64? s radix = some n) :
    IsNumeral radix (Text.trimChars s.toList) n.val ∧ n.val ≠ IntWidth.int64.lo ∨
      HasExcessSign radix (Text.trimChars s.toList) n := by
  have hlo : IntWidth.int64.lo = -9223372036854775808 := rfl
  by_cases hs : ∃ rest, Text.trimChars s.toList = '-' :: rest
  · obtain ⟨rest, hs⟩ := hs
    rw [readRadix64?_of_minus h2 h36 hs] at h
    obtain ⟨k, hk, rfl⟩ := Option.map_eq_some_iff.1 h
    obtain ⟨mark, hmark, ds, rfl, hsigned⟩ := (read?_dropMark_eq_some_iff h36).1 hk
    rw [hs]
    -- Behind the minus sign there may be digits, or a sign too many.
    rcases hsigned.eq_or with ⟨m, hds, hval⟩ | ⟨ds, m, -, ⟨rfl, -⟩ | ⟨rfl, -⟩⟩
    · obtain ⟨hwrap, hne⟩ := wrap_neg_of_spells hval
      exact .inl ⟨hwrap ▸ .minus hmark hds, hne⟩
    · exact .inr (.doubled hmark (.inl rfl) hsigned)
    · exact .inr (.doubled hmark (.inr rfl) hsigned)
  · rw [not_exists] at hs
    rw [readRadix64?_of_ne_minus h2 h36 hs] at h
    obtain ⟨mark, hmark, ds, heq, hsigned⟩ := (read?_dropMark_eq_some_iff h36).1 h
    rw [heq] at hs ⊢
    rcases hsigned.eq_or with ⟨m, hds, hval⟩ | ⟨ds, m, hds, hsign⟩
    · exact .inl ⟨hval ▸ .unsigned hmark hds, by omega⟩
    · -- A plus sign may stand in front if there is no mark; a minus sign cannot be there.
      rcases List.mem_cons.1 hmark with rfl | hmark
      · rcases hsign with ⟨rfl, hval⟩ | ⟨rfl, -⟩
        · exact .inl ⟨hval ▸ .plus hds, by omega⟩
        · exact absurd rfl (hs ds)
      · rcases hsign with ⟨rfl, -⟩ | ⟨rfl, -⟩
        · exact .inr (.marked hmark (.inl rfl) hsigned)
        · exact .inr (.marked hmark (.inr rfl) hsigned)

/-- A numeral of an integer that is not the least is read. -/
theorem readRadix64?_of_isNumeral (h2 : 2 ≤ radix) (h36 : radix ≤ 36) {n : IntWidth.int64.Carrier}
    (h : IsNumeral radix (Text.trimChars s.toList) n.val) (hne : n.val ≠ IntWidth.int64.lo) :
    readRadix64? s radix = some n := by
  have hlo : IntWidth.int64.lo = -9223372036854775808 := rfl
  have hhi : IntWidth.int64.hi = 9223372036854775807 := rfl
  generalize hcs : Text.trimChars s.toList = cs at h
  generalize hval : n.val = v at h
  cases h with
  | @plus ds m hds =>
    -- The text begins with a plus sign.
    have hminus : ∀ rest, Text.trimChars s.toList ≠ '-' :: rest := fun rest h =>
      nomatch hcs.symm.trans h
    rw [readRadix64?_of_ne_minus h2 h36 hminus, hcs]
    exact (read?_dropMark_eq_some_iff h36).2
      ⟨[], List.mem_cons_self, '+' :: ds, rfl, hval ▸ .plus hds⟩
  | @unsigned mark ds m hmark hds =>
    -- Neither a mark nor a digit is a minus sign.
    have hminus : ∀ rest, Text.trimChars s.toList ≠ '-' :: rest := fun rest h => by
      have hmem : '-' ∈ mark ++ ds := hcs.symm.trans h ▸ List.mem_cons_self
      exact (isAsciiAlphanumeric_of_mem_append h36 hmark hds hmem).isNoSign.2 rfl
    rw [readRadix64?_of_ne_minus h2 h36 hminus, hcs]
    exact (read?_dropMark_eq_some_iff h36).2 ⟨mark, hmark, ds, rfl, hval ▸ .unsigned hds⟩
  | @minus mark ds m hmark hds =>
    -- The opposite of the number is one of 64 bits, as the number is not the least.
    have hlower := n.lo_le
    let k : IntWidth.int64.Carrier := ⟨m, by omega, by omega⟩
    rw [readRadix64?_of_minus h2 h36 hcs, read?_dropMark_append h36 hmark (.unsigned hds),
      IntWidth.int64.ofInt?_val k, Option.map_some, Option.some.injEq]
    exact Bounded.ext ((wrap_neg_of_spells (k := k) rfl).1.trans hval.symm)

/-- A text with a sign too many is read: the signs are applied one after the other. -/
theorem readRadix64?_of_hasExcessSign (h2 : 2 ≤ radix) (h36 : radix ≤ 36)
    {n : IntWidth.int64.Carrier} (h : HasExcessSign radix (Text.trimChars s.toList) n) :
    readRadix64? s radix = some n := by
  generalize hcs : Text.trimChars s.toList = cs at h
  cases h with
  | @marked mark ds sign _ hmark hsign hsigned =>
    -- The text begins with the nought of its mark.
    have hminus : ∀ rest, Text.trimChars s.toList ≠ '-' :: rest := fun rest h => by
      obtain ⟨c, rfl, -⟩ := exists_eq_of_mem_radixMarks hmark
      exact nomatch hcs.symm.trans h
    rw [readRadix64?_of_ne_minus h2 h36 hminus, hcs]
    exact (read?_dropMark_eq_some_iff h36).2
      ⟨mark, List.mem_cons_of_mem _ hmark, _, rfl, hsigned⟩
  | doubled hmark hsign hsigned =>
    rw [readRadix64?_of_minus h2 h36 hcs, read?_dropMark_append h36 hmark hsigned,
      IntWidth.ofInt?_val, Option.map_some]

/-- The reader takes the numerals of all integers but the least, and texts with a sign too many. -/
theorem readRadix64?_eq_some_iff_isNumeral (h2 : 2 ≤ radix) (h36 : radix ≤ 36)
    {n : IntWidth.int64.Carrier} :
    readRadix64? s radix = some n ↔
      IsNumeral radix (Text.trimChars s.toList) n.val ∧ n.val ≠ IntWidth.int64.lo ∨
        HasExcessSign radix (Text.trimChars s.toList) n :=
  ⟨isNumeral_or_hasExcessSign h2 h36, fun h => h.elim
    (fun h => readRadix64?_of_isNumeral h2 h36 h.1 h.2) (readRadix64?_of_hasExcessSign h2 h36)⟩

/-- A text of an integer, with white space around it, is read as the integer, unless that is the
    least one. -/
private theorem readRadix64?_of_isTextOf (h2 : 2 ≤ radix) (h36 : radix ≤ 36)
    {n : IntWidth.int64.Carrier} {cs : List Char} (h : IsTextOf radix n.val cs)
    (hs : Text.trimChars s.toList = cs) :
    readRadix64? s radix = if n.val = IntWidth.int64.lo then none else some n := by
  split
  · rename_i hleast
    -- The digits are those of the opposite of the least integer, which 64 bits do not hold.
    obtain ⟨mark, hmark, ds, rfl, hds⟩ := h
    have hspells : Spells radix ds n.val.natAbs := .of_map_toLower (hds ▸ spells_text h2 h36 _)
    have hs : Text.trimChars s.toList = '-' :: (mark ++ ds) :=
      hs.trans (congrArg (· ++ (mark ++ ds)) (if_pos (by rw [hleast]; decide)))
    rw [readRadix64?_of_minus h2 h36 hs, read?_dropMark_append h36 hmark (.unsigned hspells),
      IntWidth.ofInt?_eq_none_iff.2 (.inr (by rw [hleast]; decide)), Option.map_none]
  · rename_i hne
    exact readRadix64?_of_isNumeral h2 h36 (hs ▸ h.isNumeral h2 h36) hne

/-- **What the reader of numerals makes of a text.**  In every radix from 2 to 36, the text of an
    integer of 64 bits, with any white space around it, is read as the integer, unless that is the
    least one, which is never read.  In general a text is read as an integer if it is a numeral of
    the integer, and that is not the least one, or if it has a sign too many; and what is read is a
    numeral of what it is read as exactly if it has no sign but in front. -/
theorem readRadix64?_reads_numerals (h2 : 2 ≤ radix) (h36 : radix ≤ 36) :
    (∀ (n : IntWidth.int64.Carrier) (cs : List Char), IsTextOf radix n.val cs →
      ∀ left right : String, (∀ c ∈ left.toList, Text.isBlank c = true) →
        (∀ c ∈ right.toList, Text.isBlank c = true) →
          readRadix64? (left ++ String.ofList cs ++ right) radix =
            if n.val = IntWidth.int64.lo then none else some n) ∧
    (∀ (s : String) (n : IntWidth.int64.Carrier), readRadix64? s radix = some n ↔
      IsNumeral radix (Text.trimChars s.toList) n.val ∧ n.val ≠ IntWidth.int64.lo ∨
        HasExcessSign radix (Text.trimChars s.toList) n) ∧
    ∀ (s : String) (n : IntWidth.int64.Carrier), readRadix64? s radix = some n →
      (IsNumeral radix (Text.trimChars s.toList) n.val ↔
        ∀ c ∈ (Text.trimChars s.toList).tail, c ≠ '+' ∧ c ≠ '-') := by
  refine ⟨fun n cs hcs left right hleft hright => ?_,
    fun s n => readRadix64?_eq_some_iff_isNumeral h2 h36, fun s n h => ⟨fun hnumeral c hc => ?_,
      fun hsign => ?_⟩⟩
  · apply readRadix64?_of_isTextOf h2 h36 hcs
    -- A numeral has no white space, so all of it that surrounds the text is taken off.
    have hnumeral := hcs.isNumeral h2 h36
    rw [String.toList_append, String.toList_append, String.toList_ofList]
    exact Text.trimChars_surrounded hnumeral.ne_nil (fun c => hnumeral.not_isBlank_of_mem h36)
      hleft hright
  · exact hnumeral.isNoSign_of_mem_tail h36 hc
  · rcases isNumeral_or_hasExcessSign h2 h36 h with ⟨hnumeral, -⟩ | hexcess
    · exact hnumeral
    · -- A sign too many stands behind the first character.
      obtain ⟨c, hc, hsigned⟩ := hexcess.exists_mem_tail
      exact absurd hsigned (not_or.2 (hsign c hc))

/-- In radix 16 the least integer is not read, the one next to it is, and `-+f` is read as −15, of
    which it is no numeral. -/
theorem readRadix64?_reads_hexadecimal_numerals :
    (2 ≤ 16 ∧ 16 ≤ 36) ∧ readRadix64? " -0x8000000000000000\n" 16 = none ∧
      readRadix64? "-7fffFFFFffffFFFF" 16 = some ⟨-9223372036854775807, by decide, by decide⟩ ∧
        readRadix64? "-+f" 16 = some ⟨-15, by decide, by decide⟩ ∧
          ¬ IsNumeral 16 "-+f".toList (-15) := by
  obtain ⟨htexts, hall, hsigns⟩ := @readRadix64?_reads_numerals 16 (by decide) (by decide)
  have hleast : IsTextOf 16 (-9223372036854775808) "-0x8000000000000000".toList :=
    ⟨['0', 'x'], by decide, "8000000000000000".toList, by decide, by decide +kernel⟩
  have hnext : IsTextOf 16 (-9223372036854775807) "-7fffFFFFffffFFFF".toList :=
    ⟨[], by decide, "7fffFFFFffffFFFF".toList, by decide, by decide +kernel⟩
  have hreadLeast : readRadix64? (" " ++ String.ofList _ ++ "\n") 16 = _ :=
    (htexts ⟨_, by decide, by decide⟩ _ hleast _ _ (List.all_eq_true.1 (by decide))
      (List.all_eq_true.1 (by decide))).trans (if_pos (by decide))
  have hreadNext : readRadix64? ("" ++ String.ofList _ ++ "") 16 = _ :=
    (htexts ⟨_, by decide, by decide⟩ _ hnext _ _ (List.all_eq_true.1 (by decide))
      (List.all_eq_true.1 (by decide))).trans (if_neg (by decide))
  rw [String.ofList_toList] at hreadLeast hreadNext
  let fifteen : IntWidth.int64.Carrier := ⟨15, by decide, by decide⟩
  have hsigned : IsSigned 16 ['+', 'f'] fifteen.val := .plus (.digit ⟨by decide, by decide⟩)
  have hplus : readRadix64? "-+f" 16 = some ⟨-15, by decide, by decide⟩ :=
    (hall "-+f" _).2 (.inr (.doubled List.mem_cons_self (.inl rfl) hsigned))
  exact ⟨⟨by decide, by decide⟩, hreadLeast, hreadNext, hplus, fun hnumeral =>
    ((hsigns "-+f" _ hplus).1 hnumeral '+' (by decide)).1 rfl⟩

end

end SqlAssembly
