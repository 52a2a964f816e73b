import SqlAssembly.Number.Numeral

/-! # Integer literals

The reader of numerals goes over the digits one by one and gives up at the first other character.
The literals of an integer are described here without it: a sign or none, then decimal digits, of
which there is one at least.

* `Numeral.IsLiteral`             the literals of an integer
* `Numeral.readInt?_eq_some_iff`  the reader accepts them and nothing else
* `IntWidth.read?_eq_some_iff`    a width reads those of its own numbers -/

namespace SqlAssembly

namespace Numeral

/-- A run of decimal digits, of which there is one at least. -/
def IsDigits (cs : List Char) : Prop := cs ≠ [] ∧ ∀ c ∈ cs, isDigit c = true

/-- The decimal literals of an integer. -/
inductive IsLiteral : List Char → Int → Prop
  | unsigned {ds : List Char} (h : IsDigits ds) : IsLiteral ds (decimalValue ds)
  | plus {ds : List Char} (h : IsDigits ds) : IsLiteral ('+' :: ds) (decimalValue ds)
  | minus {ds : List Char} (h : IsDigits ds) : IsLiteral ('-' :: ds) (-(decimalValue ds : Int))

/-- In radix ten no letter is a digit. -/
private theorem digitValue?_ten (c : Char) :
    digitValue? 10 c = if isDigit c then some (c.toNat - 48) else none := by
  simp only [digitValue?, isDigit, Bool.and_eq_true, decide_eq_true_eq]
  split
  · -- a decimal digit
    rename_i h
    rw [Option.filter_some, if_pos (decide_eq_true (by omega))]
  · -- letters stand for ten and more, in either case
    split
    · rw [Option.filter_some, if_neg (by simp only [decide_eq_true_eq]; omega)]
    · split
      · rw [Option.filter_some, if_neg (by simp only [decide_eq_true_eq]; omega)]
      · rfl

private theorem readFrom?_eq_some_iff {cs : List Char} {acc n : Nat} :
    readFrom? 10 acc cs = some n ↔
      (∀ c ∈ cs, isDigit c = true) ∧
        cs.foldl (fun acc c => acc * 10 + (c.toNat - 48)) acc = n := by
  induction cs generalizing acc with
  | nil => simp [readFrom?]
  | cons c cs ih =>
    rw [readFrom?, digitValue?_ten, List.forall_mem_cons, List.foldl_cons]
    split
    · -- a digit, which is added to what was read
      rename_i hc
      rw [Option.bind_some, ih]
      simp only [hc, true_and]
    · rename_i hc
      exact ⟨nofun, fun h => absurd h.1.1 hc⟩

theorem read?_eq_some_iff {cs : List Char} {n : Nat} :
    read? 10 cs = some n ↔ IsDigits cs ∧ decimalValue cs = n := by
  rw [read?, IsDigits]
  cases cs with
  | nil => exact ⟨nofun, fun h => absurd rfl h.1.1⟩
  | cons c cs =>
    rw [List.isEmpty_cons, if_neg Bool.false_ne_true, readFrom?_eq_some_iff, decimalValue]
    simp only [ne_eq, List.cons_ne_nil, not_false_eq_true, true_and]

/-- A literal starts with a digit or with a sign. -/
theorem IsLiteral.exists_cons {cs : List Char} {n : Int} (h : IsLiteral cs n) :
    ∃ c ds, cs = c :: ds ∧ (isDigit c = true ∨ c = '+' ∨ c = '-') := by
  cases h with
  | @unsigned ds h =>
    obtain ⟨c, ds, rfl⟩ := List.exists_cons_of_ne_nil h.1
    exact ⟨c, ds, rfl, .inl (h.2 c List.mem_cons_self)⟩
  | @plus ds => exact ⟨'+', ds, rfl, .inr (.inl rfl)⟩
  | @minus ds => exact ⟨'-', ds, rfl, .inr (.inr rfl)⟩

/-- Digits are no sign. -/
private theorem IsDigits.head_ne {c d : Char} {cs : List Char} (h : IsDigits (c :: cs))
    (hd : isDigit d = false) : c ≠ d := by
  rintro rfl
  rw [h.2 c List.mem_cons_self] at hd
  exact Bool.false_ne_true hd.symm

/-- What is made of the integer that a natural number is, is made of the number. -/
theorem map_cast (x : Option Nat) (f : Int → Int) :
    Option.map f (do let k ← x; pure (k : Int)) = Option.map (fun k : Nat => f k) x := by
  cases x <;> rfl

/-- Digits without a sign are read whether or not a minus sign is allowed. -/
theorem readInt?_of_isDigits {ds : List Char} (h : IsDigits ds) (signed : Bool) :
    readInt? 10 signed ds = some (decimalValue ds : Int) := by
  unfold readInt?
  -- A first digit leads past both signs.
  split
  · exact absurd rfl (h.head_ne (by decide : isDigit '+' = false))
  · exact absurd rfl (h.head_ne (by decide : isDigit '-' = false))
  · rw [map_cast, read?_eq_some_iff.2 ⟨h, rfl⟩, Option.map_some]

/-- The reader accepts the literals of an integer and nothing else. -/
theorem readInt?_eq_some_iff {cs : List Char} {n : Int} :
    readInt? 10 true cs = some n ↔ IsLiteral cs n := by
  constructor
  · intro h
    unfold readInt? at h
    split at h
    · -- a plus sign
      rw [map_cast] at h
      obtain ⟨k, hk, rfl⟩ := Option.map_eq_some_iff.1 h
      obtain ⟨hds, rfl⟩ := read?_eq_some_iff.1 hk
      exact .plus hds
    · -- a minus sign
      rw [if_pos rfl, map_cast] at h
      obtain ⟨k, hk, rfl⟩ := Option.map_eq_some_iff.1 h
      obtain ⟨hds, rfl⟩ := read?_eq_some_iff.1 hk
      exact .minus hds
    · -- no sign
      rw [map_cast] at h
      obtain ⟨k, hk, rfl⟩ := Option.map_eq_some_iff.1 h
      obtain ⟨hds, rfl⟩ := read?_eq_some_iff.1 hk
      exact .unsigned hds
  · intro h
    cases h with
    | unsigned h => exact readInt?_of_isDigits h true
    | plus h => rw [readInt?, map_cast, read?_eq_some_iff.2 ⟨h, rfl⟩, Option.map_some]
    | minus h => rw [readInt?, if_pos rfl, map_cast, read?_eq_some_iff.2 ⟨h, rfl⟩, Option.map_some]

end Numeral

namespace IntWidth

theorem ofInt?_eq_some_iff {w : IntWidth} {k : Int} {n : w.Carrier} :
    w.ofInt? k = some n ↔ k = n.val := by
  constructor
  · intro h
    rw [ofInt?] at h
    split at h
    · exact congrArg Bounded.val (Option.some.inj h)
    · exact absurd h.symm (Option.some_ne_none n)
  · rintro rfl
    exact w.ofInt?_val n

/-- A width with negative numbers reads the literals of its own numbers. -/
theorem read?_eq_some_iff {w : IntWidth} (hw : w.signed = true) {cs : List Char} {n : w.Carrier} :
    w.read? 10 cs = some n ↔ Numeral.IsLiteral cs n.val := by
  rw [read?, hw, Option.bind_eq_some_iff]
  constructor
  · rintro ⟨k, hk, hn⟩
    obtain rfl := ofInt?_eq_some_iff.1 hn
    exact Numeral.readInt?_eq_some_iff.1 hk
  · intro h
    exact ⟨n.val, Numeral.readInt?_eq_some_iff.2 h, w.ofInt?_val n⟩

end IntWidth

end SqlAssembly
