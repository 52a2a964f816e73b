import SqlAssembly.Json.Printer

/-! # The characters of decimal texts

Numbers stand in statements and in the names of parameters.  What matters there is which
characters they are made of, digits and a minus sign in front, and that no two have the same text.
In dates and times they are filled up with noughts to a fixed number of digits.

* `Numeral.isDigit_of_mem_decimal`   the decimal text of a natural number has digits only
* `Numeral.decimal_injective`        different numbers have different texts
* `Numeral.length_padded`, `Numeral.decimalValue_padded`   numbers filled up with noughts
* `Json.not_mem_intText`             what is neither a digit nor a minus sign is not in a number -/

namespace SqlAssembly

namespace Numeral

private theorem toNat_digitChar : ∀ d < 10, (digitChar d).toNat = 48 + d := by decide

private theorem isDigit_digitChar {d : Nat} (h : d < 10) : isDigit (digitChar d) = true := by
  simp only [isDigit, toNat_digitChar d h, Bool.and_eq_true, decide_eq_true_eq]
  omega

/-- The decimal text of a natural number has digits only. -/
theorem isDigit_of_mem_decimal {n : Nat} {c : Char} (h : c ∈ decimal n) : isDigit c = true := by
  rw [decimal] at h
  induction n using Nat.strongRecOn with
  | ind n ih =>
    rw [text] at h
    split at h
    · -- a single digit
      rename_i hn
      rw [List.mem_singleton] at h
      subst h
      exact isDigit_digitChar (by omega)
    · -- the digits of the quotient, and the last one behind them
      rename_i hn
      rcases List.mem_append.1 h with h | h
      · exact ih (n / 10) (by omega) h
      · rw [List.mem_singleton] at h
        subst h
        exact isDigit_digitChar (Nat.mod_lt _ (by omega))

theorem decimal_ne_nil (n : Nat) : decimal n ≠ [] := by
  rw [decimal, text]
  split <;> simp

theorem mem_decimalInt {n : Int} {c : Char} (h : c ∈ decimalInt n) :
    c = '-' ∨ isDigit c = true := by
  rw [decimalInt] at h
  split at h
  · rcases List.mem_cons.1 h with h | h
    · exact .inl h
    · exact .inr (isDigit_of_mem_decimal h)
  · exact .inr (isDigit_of_mem_decimal h)

/-- Reading the decimal text of a natural number gives it back. -/
theorem decimalValue_decimal (n : Nat) : decimalValue (decimal n) = n := by
  induction n using Nat.strongRecOn with
  | ind n ih =>
    rw [decimal, text]
    split
    · rename_i hn
      have hdigit := toNat_digitChar n (by omega)
      simp only [decimalValue, List.foldl_cons, List.foldl_nil, hdigit]
      omega
    · rename_i hn
      -- The last digit goes behind those of the quotient, in reading as in writing.
      have hrest : decimalValue (decimal (n / 10)) = n / 10 := ih (n / 10) (by omega)
      have hdigit := toNat_digitChar (n % 10) (Nat.mod_lt n (by omega))
      simp only [decimalValue, decimal] at hrest
      simp only [decimalValue, List.foldl_append, List.foldl_cons, List.foldl_nil, hrest, hdigit]
      omega

/-- Different numbers have different texts. -/
theorem decimal_injective {m n : Nat} (h : decimal m = decimal n) : m = n := by
  rw [← decimalValue_decimal m, h, decimalValue_decimal]

/-! ## Filled up with noughts -/

/-- A number below a power of ten has no more digits than the power has noughts. -/
theorem length_decimal_le {width n : Nat} (h : n < Nat.pow 10 (width + 1)) :
    (decimal n).length ≤ width + 1 := by
  induction width generalizing n with
  | zero =>
    have hsmall : n < 10 := h
    rw [decimal, text, dif_pos (.inl hsmall)]
    exact Nat.le_refl 1
  | succ width ih =>
    rw [decimal, text]
    split
    · exact Nat.succ_le_succ (Nat.zero_le _)
    · -- The last digit is cut off, and the bound loses one nought.
      have hquotient : n / 10 < Nat.pow 10 (width + 1) :=
        Nat.div_lt_of_lt_mul (Nat.mul_comm 10 _ ▸ h)
      have hrest : (decimal (n / 10)).length ≤ width + 1 := ih hquotient
      rw [List.length_append, List.length_singleton]
      exact Nat.succ_le_succ hrest

theorem length_padded {width n : Nat} (h : n < Nat.pow 10 (width + 1)) :
    (padded (width + 1) n).length = width + 1 := by
  have hle := length_decimal_le h
  simp only [padded, List.length_append, List.length_replicate]
  omega

theorem padded_ne_nil (width n : Nat) : padded width n ≠ [] := by
  simp [padded, decimal_ne_nil]

theorem isDigit_of_mem_padded {width n : Nat} {c : Char} (h : c ∈ padded width n) :
    isDigit c = true := by
  rcases List.mem_append.1 h with h | h
  · rw [List.eq_of_mem_replicate h]
    decide
  · exact isDigit_of_mem_decimal h

/-- Noughts in front of a number do not count. -/
theorem decimalValue_padded (width n : Nat) : decimalValue (padded width n) = n := by
  -- Behind noughts the fold is still at nought.
  have hzeros : ∀ k,
      (List.replicate k '0').foldl (fun acc c => acc * 10 + (c.toNat - 48)) 0 = 0 := by
    intro k
    induction k with
    | zero => rfl
    | succ k ih => exact ih
  rw [decimalValue, padded, List.foldl_append, hzeros]
  exact decimalValue_decimal n

end Numeral

/-- What is neither a digit nor a minus sign is not in the text of a number. -/
theorem Json.not_mem_intText {c : Char} (hc : c ≠ '-') (hd : Numeral.isDigit c = false) (n : Int) :
    c ∉ (Json.intText n).toList := by
  intro h
  rw [Json.intText, String.toList_ofList] at h
  rcases Numeral.mem_decimalInt h with h | h
  · exact hc h
  · rw [hd] at h
    exact Bool.false_ne_true h

end SqlAssembly
