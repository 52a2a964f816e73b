import SqlAssembly.Coercion.Integers
import SqlAssembly.Proofs.ElementValues
import SqlAssembly.Proofs.IntegerLiterals
import SqlAssembly.Proofs.LayoutText

/-! # Narrowing of integers

A value holds an integer in one of three widths, and a field asks for one in any of ten.  A number
that the width asked for does not hold becomes the nearest one that it does.  There are two ways to
find that: to try the number itself and then the bound on its side of nought, or to cut the number
at both bounds.  They agree because nought is in every width.

A text is never cut.  It spells a number of the width asked for, or it is worth nothing.

* `Value.IsInteger`                 the values that hold an integer, in whatever width
* `IntWidth.clamp_clamp`            narrowing by way of a width with more numbers
* `Text.trimChars_surrounded`       white space around a text without any
* `IntWidth.read?_decimalInt`       what a width reads in the decimal text of an integer
* `FieldType.coerce?_int_narrows`   what a width makes of an integer and of its text -/

namespace SqlAssembly

/-! ## Widths -/

namespace IntWidth

variable {u w : IntWidth} {m n : Int}

/-- Narrowing keeps the order. -/
theorem clamp_val_mono (h : m ≤ n) : (w.clamp m).val ≤ (w.clamp n).val := by
  simp only [clamp_val]
  omega

/-- Narrowing by way of a width with more numbers is narrowing. -/
theorem clamp_clamp (hlo : u.lo ≤ w.lo) (hhi : w.hi ≤ u.hi) :
    w.clamp (u.clamp n).val = w.clamp n := by
  apply Bounded.ext
  simp only [clamp_val]
  omega

/-- A width without negative numbers starts at nought. -/
private theorem lo_eq_zero (h : w.signed = false) : w.lo = 0 := by
  cases w with
  | uint8 | uint16 | uint32 | uint64 | uintWord => rfl
  | _ => cases h

/-- A width has no number for what is beyond its bounds. -/
theorem ofInt?_eq_none_iff : w.ofInt? n = none ↔ n < w.lo ∨ w.hi < n := by
  unfold ofInt?
  split
  · simp only [reduceCtorEq, false_iff]
    omega
  · simp only [true_iff]
    omega

end IntWidth

/-! ## Texts of integers -/

namespace Numeral

private theorem isDigits_decimal (n : Nat) : IsDigits (decimal n) :=
  ⟨decimal_ne_nil n, fun _ hc => isDigit_of_mem_decimal hc⟩

theorem decimalInt_ne_nil (n : Int) : decimalInt n ≠ [] := by
  unfold decimalInt
  split
  · simp
  · exact decimal_ne_nil _

theorem not_isBlank_of_mem_decimalInt {n : Int} {c : Char} (h : c ∈ decimalInt n) :
    Text.isBlank c = false := by
  rcases mem_decimalInt h with rfl | h
  · decide
  · exact not_isBlank_of_isDigit h

/-- The decimal text of an integer is read, unless a minus sign is in the way. -/
private theorem readInt?_decimalInt (signed : Bool) (n : Int) :
    readInt? 10 signed (decimalInt n) = if signed = false ∧ n < 0 then none else some n := by
  have hdigits := isDigits_decimal n.natAbs
  have hvalue := decimalValue_decimal n.natAbs
  unfold decimalInt
  split
  · rename_i hneg
    cases signed with
    | true =>
      -- The digits are those of the absolute value.
      have hn : -(n.natAbs : Int) = n := by omega
      rw [readInt?_eq_some_iff.2 (.minus hdigits), hvalue, hn, if_neg (by simp)]
    | false => rw [readInt?, if_neg Bool.false_ne_true, if_pos ⟨rfl, hneg⟩]
  · rename_i hpos
    have hn : (n.natAbs : Int) = n := by omega
    rw [readInt?_of_isDigits hdigits, hvalue, hn, if_neg fun h => hpos h.2]

end Numeral

/-- What a width reads in the decimal text of an integer: the integer, if it is one of its own. -/
theorem IntWidth.read?_decimalInt (w : IntWidth) (n : Int) :
    w.read? 10 (Numeral.decimalInt n) = w.ofInt? n := by
  rw [IntWidth.read?, Numeral.readInt?_decimalInt]
  split
  · rename_i h
    -- Without negative numbers the width starts at nought.
    have hlo := lo_eq_zero h.1
    exact (ofInt?_eq_none_iff.2 (by omega)).symm
  · rw [Option.bind_some]

namespace Text

/-- White space around a text that has none in it does not count. -/
theorem trimChars_surrounded {left mid right : List Char} (hmid : mid ≠ [])
    (hink : ∀ c ∈ mid, isBlank c = false) (hleft : ∀ c ∈ left, isBlank c = true)
    (hright : ∀ c ∈ right, isBlank c = true) : trimChars (left ++ mid ++ right) = mid := by
  -- The blanks in front are dropped, and the text stops the trimming.
  have hfront : trimLeft (left ++ (mid ++ right)) = mid ++ right := by
    rw [trimLeft, List.dropWhile_append_of_pos hleft]
    exact trimLeft_append hmid hink right
  -- Trimming the end is trimming the front of the reverse.
  have hback : trimLeft (right.reverse ++ mid.reverse) = mid.reverse := by
    rw [trimLeft, List.dropWhile_append_of_pos fun c hc => hright c (List.mem_reverse.1 hc)]
    have hmid' : trimLeft (mid.reverse ++ []) = mid.reverse ++ [] :=
      trimLeft_append (by simpa using hmid) (fun c hc => hink c (List.mem_reverse.1 hc)) []
    rwa [List.append_nil] at hmid'
  rw [List.append_assoc, trimChars, hfront, trimRight, List.reverse_append]
  exact (congrArg List.reverse hback).trans (List.reverse_reverse mid)

end Text

/-! ## Values -/

/-- Whether a value holds the integer `n`, in whatever width. -/
inductive Value.IsInteger : Value → Int → Prop
  | int16 (n : IntWidth.int16.Carrier) : IsInteger (.int16 n) n.val
  | int32 (n : IntWidth.int32.Carrier) : IsInteger (.int32 n) n.val
  | int64 (n : IntWidth.int64.Carrier) : IsInteger (.int64 n) n.val

namespace FieldType

variable {v : Value} {n : Int}

/-- An integer in a value is worth the nearest integer of a width. -/
theorem coerce?_int_of_isInteger (w : IntWidth) (h : v.IsInteger n) :
    (int w).coerce? v = some (w.clamp n) := by
  -- All three kinds of integers are read as integers, and none as a text.
  have hvalue : v.integer? = some n ∧ v.text? = none := by cases h <;> exact ⟨rfl, rfl⟩
  rw [coerce?_int_of_integer? w hvalue.2, hvalue.1, Option.map_some]

/-- No value holds more than 64 bits with a sign. -/
private theorem le_int64_hi_of_isInteger (h : v.IsInteger n) : n ≤ IntWidth.int64.hi := by
  cases h with
  | int16 n => exact Int.le_trans n.le_hi (by decide)
  | int32 n => exact Int.le_trans n.le_hi (by decide)
  | int64 n => exact n.le_hi

/-- An integer that was narrowed and put into a value again is worth what it was worth before, if
    the width in between has all numbers of the other. -/
private theorem coerce?_int_embed_of_isInteger {u w : IntWidth} (hlo : u.lo ≤ w.lo)
    (hhi : w.hi ≤ u.hi) (h : v.IsInteger n) :
    (int w).coerce? ((int u).embed (u.clamp n)) = (int w).coerce? v := by
  obtain ⟨hinteger, htext⟩ := integer?_embed_int u (u.clamp n)
  -- The integer came out of a value, so after narrowing it still goes into one as it is.
  have hfits : (u.clamp n).val ≤ IntWidth.int64.hi := by
    have hn := le_int64_hi_of_isInteger h
    have hzero := u.lo_nonpos
    have hword := IntWidth.int64.hi_nonneg
    rw [IntWidth.clamp_val]
    omega
  rw [coerce?_int_of_integer? w htext, hinteger, Int.min_eq_left hfits, Option.map_some,
    IntWidth.clamp_clamp hlo hhi, coerce?_int_of_isInteger w h]

/-- The text of an integer is worth the integer, if it is one of the width. -/
theorem coerce?_int_text (w : IntWidth) (n : Int) {left right : String}
    (hleft : ∀ c ∈ left.toList, Text.isBlank c = true)
    (hright : ∀ c ∈ right.toList, Text.isBlank c = true) :
    (int w).coerce? (.text (left ++ Json.intText n ++ right)) = w.ofInt? n := by
  -- What is left between the blanks is the decimal text.
  have htrim : Text.trimChars (left ++ Json.intText n ++ right).toList = Numeral.decimalInt n := by
    rw [String.toList_append, String.toList_append, Json.intText, String.toList_ofList]
    exact Text.trimChars_surrounded (Numeral.decimalInt_ne_nil n)
      (fun _ hc => Numeral.not_isBlank_of_mem_decimalInt hc) hleft hright
  show w.read? 10 (Text.trimChars (left ++ Json.intText n ++ right).toList) = _
  rw [htrim, IntWidth.read?_decimalInt]

/-- **Narrowing of integers.**  An integer in a value, whatever its width there, is worth the
    nearest number of the width asked for, which is the integer itself where that is a number of the
    width; cutting the integer at the bounds gives the same.  So narrowing keeps the order, and it
    makes no difference to narrow first to a width that has all numbers of the one asked for.  The
    decimal text of an integer, with any white space around it, is worth the integer if it is a
    number of the width, and nothing else. -/
theorem coerce?_int_narrows (w : IntWidth) :
    (∀ v n, v.IsInteger n → ∃ k : w.Carrier, (int w).coerce? v = some k ∧
      k.val = min (max n w.lo) w.hi ∧ (w.lo ≤ n → n ≤ w.hi → k.val = n) ∧ narrow w n = k.val) ∧
    (∀ v v' m n, v.IsInteger m → v'.IsInteger n → m ≤ n → ∀ j k : w.Carrier,
      (int w).coerce? v = some j → (int w).coerce? v' = some k → j.val ≤ k.val) ∧
    (∀ u : IntWidth, u.lo ≤ w.lo → w.hi ≤ u.hi → ∀ v n, v.IsInteger n →
      (((int u).coerce? v).bind fun k => (int w).coerce? ((int u).embed k)) =
        (int w).coerce? v) ∧
    ∀ (n : Int) (left right : String), (∀ c ∈ left.toList, Text.isBlank c = true) →
      (∀ c ∈ right.toList, Text.isBlank c = true) →
      (∀ k : w.Carrier,
        (int w).coerce? (.text (left ++ Json.intText n ++ right)) = some k ↔ k.val = n) ∧
      ((int w).coerce? (.text (left ++ Json.intText n ++ right)) = none ↔
        n < w.lo ∨ w.hi < n) := by
  refine ⟨fun v n h => ?_, fun v v' m n hm hn hle j k hj hk => ?_, fun u hlo hhi v n h => ?_,
    fun n left right hleft hright => ?_⟩
  · have hwidth := w.lo_le_hi
    -- The bounds may be applied in either order, as the lower one is below the upper.
    have hnearest : (w.clamp n).val = min (max n w.lo) w.hi := by
      rw [IntWidth.clamp_val]
      omega
    exact ⟨w.clamp n, coerce?_int_of_isInteger w h, hnearest,
      Bounded.clamp_of_mem w.lo_le_hi, rfl⟩
  · obtain rfl := Option.some.inj ((coerce?_int_of_isInteger w hm).symm.trans hj)
    obtain rfl := Option.some.inj ((coerce?_int_of_isInteger w hn).symm.trans hk)
    exact IntWidth.clamp_val_mono hle
  · -- The first coercion gives the narrowed integer, which goes into a value again.
    have hbind := congrArg (fun k? : Option u.Carrier =>
      k?.bind fun k => (int w).coerce? ((int u).embed k)) (coerce?_int_of_isInteger u h)
    exact hbind.trans (coerce?_int_embed_of_isInteger hlo hhi h)
  · rw [coerce?_int_text w n hleft hright]
    exact ⟨fun k => IntWidth.ofInt?_eq_some_iff.trans eq_comm, IntWidth.ofInt?_eq_none_iff⟩

/-- The integer 300 by way of 16 bits, and texts of the greatest byte and of the number behind
    it. -/
theorem coerce?_int_narrows_bytes :
    (∃ k, (int .uint8).coerce? (.int64 (IntWidth.int64.clamp 300)) = some k ∧ k.val = 255 ∧
      narrow .uint8 300 = 255) ∧
    (∀ j k : IntWidth.uint8.Carrier,
      (int .uint8).coerce? (.int32 (IntWidth.int32.clamp (-4))) = some j →
      (int .uint8).coerce? (.int64 (IntWidth.int64.clamp 300)) = some k → j.val ≤ k.val) ∧
    (((int .int16).coerce? (.int64 (IntWidth.int64.clamp 300))).bind fun k =>
        (int .uint8).coerce? ((int .int16).embed k)) =
      (int .uint8).coerce? (.int64 (IntWidth.int64.clamp 300)) ∧
    (int .uint8).coerce? (.text ("\u2003" ++ Json.intText 255 ++ "\n")) =
      some (IntWidth.uint8.clamp 255) ∧
    (int .uint8).coerce? (.text ("\u2003" ++ Json.intText 256 ++ "\n")) = none := by
  obtain ⟨hnearest, hmono, hby, htext⟩ := coerce?_int_narrows .uint8
  have hspace : ∀ c ∈ ("\u2003").toList, Text.isBlank c = true :=
    List.forall_mem_singleton.2 (by decide)
  have hline : ∀ c ∈ ("\n").toList, Text.isBlank c = true :=
    List.forall_mem_singleton.2 (by decide)
  have hbig : Value.IsInteger (.int64 (IntWidth.int64.clamp 300)) 300 := .int64 _
  have hsmall : Value.IsInteger (.int32 (IntWidth.int32.clamp (-4))) (-4) := .int32 _
  obtain ⟨k, hk, hval, -, hnarrow⟩ := hnearest _ 300 hbig
  exact ⟨⟨k, hk, hval, hnarrow.trans hval⟩, hmono _ _ _ _ hsmall hbig (by decide),
    hby .int16 (by decide) (by decide) _ _ hbig,
    ((htext 255 _ _ hspace hline).1 _).2 rfl,
    (htext 256 _ _ hspace hline).2.2 (by decide)⟩

end FieldType

end SqlAssembly
