/-! # Texts up to the case of ASCII letters

* `Text.lowerAscii`      the ASCII letters of a text in lower case, all else unchanged
* `Text.equalUpToCase`   equality but for the case of ASCII letters
* `Text.toNat_toLower`   the code point of a letter in lower case -/

namespace SqlAssembly.Text

/-- The text with its ASCII letters in lower case. -/
def lowerAscii (s : String) : List Char := s.toList.map Char.toLower

/-- Whether two texts are equal but for the case of ASCII letters. -/
def equalUpToCase (a b : String) : Bool := lowerAscii a = lowerAscii b

theorem equalUpToCase_iff {a b : String} :
    equalUpToCase a b = true ↔ lowerAscii a = lowerAscii b := by
  simp [equalUpToCase]

theorem toNat_toLower (c : Char) :
    c.toLower.toNat = if 65 ≤ c.toNat ∧ c.toNat ≤ 90 then c.toNat + 32 else c.toNat := by
  have hupper : (65 ≤ c.val ∧ c.val ≤ 90) ↔ 65 ≤ c.toNat ∧ c.toNat ≤ 90 := Iff.rfl
  unfold Char.toLower
  split
  · rename_i h
    rw [if_pos (hupper.1 h)]
    show (c.val + 32).toNat = c.toNat + 32
    rw [UInt32.toNat_add, Nat.mod_eq_of_lt]
    · rfl
    · show c.toNat + 32 < 2 ^ 32
      have := (hupper.1 h).2
      omega
  · rename_i h
    rw [if_neg fun hn => h (hupper.2 hn)]

end SqlAssembly.Text
