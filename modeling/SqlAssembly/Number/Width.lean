/-! # Integers of fixed width

Bound values and coercion targets are integers of a fixed width.  This file gives

* `Bounded lo hi`      the integers between two bounds, with the bounds as proof fields
* `IntWidth`           the ten widths, each with its least and greatest number
* `IntWidth.clamp`     the nearest number of a width
* `IntWidth.ofInt?`    the number itself, if the width holds it
* `IntWidth.saturate`  the number itself, or the bound on its side of nought
* `IntWidth.wrap`      the number of the width that is equal modulo its size -/

namespace SqlAssembly

/-- The integers from `lo` to `hi`, both included. -/
structure Bounded (lo hi : Int) where
  val : Int
  lo_le : lo ≤ val
  le_hi : val ≤ hi
deriving DecidableEq

namespace Bounded

/-- The integer nearest to `n` between the bounds. -/
def clamp {lo hi : Int} (h : lo ≤ hi) (n : Int) : Bounded lo hi :=
  ⟨max lo (min n hi), by omega, by omega⟩

@[ext] theorem ext {lo hi : Int} {a b : Bounded lo hi} (h : a.val = b.val) : a = b := by
  cases a; cases b; simp_all

@[simp] theorem clamp_val {lo hi : Int} (h : lo ≤ hi) (n : Int) :
    (clamp h n).val = max lo (min n hi) := rfl

theorem clamp_of_mem {lo hi n : Int} (h : lo ≤ hi) (h₁ : lo ≤ n) (h₂ : n ≤ hi) :
    (clamp h n).val = n := by
  simp only [clamp_val]; omega

end Bounded

/-- The widths an integer can have.  The two word widths are those of a machine with
    64-bit words. -/
inductive IntWidth where
  | int8
  | int16
  | int32
  | int64
  | intWord
  | uint8
  | uint16
  | uint32
  | uint64
  | uintWord
deriving DecidableEq, Repr

namespace IntWidth

/-- How many bits a number of this width has. -/
def bits : IntWidth → Nat
  | int8 | uint8 => 8
  | int16 | uint16 => 16
  | int32 | uint32 => 32
  | int64 | uint64 | intWord | uintWord => 64

/-- Whether the width has negative numbers. -/
def signed : IntWidth → Bool
  | int8 | int16 | int32 | int64 | intWord => true
  | uint8 | uint16 | uint32 | uint64 | uintWord => false

/-- The least number of the width. -/
def lo : IntWidth → Int
  | int8 => -128
  | int16 => -32768
  | int32 => -2147483648
  | int64 | intWord => -9223372036854775808
  | uint8 | uint16 | uint32 | uint64 | uintWord => 0

/-- The greatest number of the width. -/
def hi : IntWidth → Int
  | int8 => 127
  | int16 => 32767
  | int32 => 2147483647
  | int64 | intWord => 9223372036854775807
  | uint8 => 255
  | uint16 => 65535
  | uint32 => 4294967295
  | uint64 | uintWord => 18446744073709551615

theorem lo_le_hi (w : IntWidth) : w.lo ≤ w.hi := by cases w <;> decide

theorem lo_nonpos (w : IntWidth) : w.lo ≤ 0 := by cases w <;> decide

theorem hi_nonneg (w : IntWidth) : 0 ≤ w.hi := by cases w <;> decide

/-- No width goes below the one of 64 bits with a sign. -/
theorem int64_lo_le (w : IntWidth) : -9223372036854775808 ≤ w.lo := by cases w <;> decide

/-- No width goes beyond the one of 64 bits without a sign. -/
theorem hi_le_uint64 (w : IntWidth) : w.hi ≤ 18446744073709551615 := by cases w <;> decide

/-- The numbers of a width fill all its bit patterns. -/
theorem hi_sub_lo (w : IntWidth) : w.hi - w.lo + 1 = Nat.pow 2 w.bits := by cases w <;> decide

/-- The numbers of a width. -/
abbrev Carrier (w : IntWidth) : Type := Bounded w.lo w.hi

/-- The number of the width nearest to `n`. -/
def clamp (w : IntWidth) (n : Int) : w.Carrier := Bounded.clamp w.lo_le_hi n

/-- `n` itself, if the width holds it. -/
def ofInt? (w : IntWidth) (n : Int) : Option w.Carrier :=
  if h : w.lo ≤ n ∧ n ≤ w.hi then some ⟨n, h.1, h.2⟩ else none

/-- The least number of the width, as one of its numbers. -/
def least (w : IntWidth) : w.Carrier := ⟨w.lo, Int.le_refl _, w.lo_le_hi⟩

/-- The greatest number of the width, as one of its numbers. -/
def greatest (w : IntWidth) : w.Carrier := ⟨w.hi, w.lo_le_hi, Int.le_refl _⟩

/-- `n` itself if the width holds it, else the bound on its side of nought. -/
def saturate (w : IntWidth) (n : Int) : w.Carrier :=
  (w.ofInt? n).getD (if n < 0 then w.least else w.greatest)

/-- The number of the width that equals `n` modulo the number of its bit patterns. -/
def wrap (w : IntWidth) (n : Int) : w.Carrier :=
  ⟨w.lo + (n - w.lo) % (w.hi - w.lo + 1), by
    have := w.lo_le_hi
    have := Int.emod_nonneg (n - w.lo) (b := w.hi - w.lo + 1) (by omega)
    omega, by
    have := w.lo_le_hi
    have := Int.emod_lt_of_pos (n - w.lo) (b := w.hi - w.lo + 1) (by omega)
    omega⟩

theorem ofInt?_val (w : IntWidth) (x : w.Carrier) : w.ofInt? x.val = some x := by
  simp [ofInt?, x.lo_le, x.le_hi]

/-- As nought is in every width, the bound on the side of a number beyond is the nearest one. -/
theorem saturate_eq_clamp (w : IntWidth) (n : Int) : w.saturate n = w.clamp n := by
  have hlo := w.lo_nonpos
  have hhi := w.hi_nonneg
  apply Bounded.ext
  show (w.saturate n).val = max w.lo (min n w.hi)
  unfold saturate ofInt?
  split
  · simp only [Option.getD_some]
    omega
  · simp only [Option.getD_none]
    split
    · show w.lo = _
      omega
    · show w.hi = _
      omega

end IntWidth

end SqlAssembly
