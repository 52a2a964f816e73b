import Mathlib.Data.Rat.Floor
import SqlAssembly.Builder.Clause
import SqlAssembly.Pagination

/-! # The windows of the pages tile the rows

A statement computes the window of a page from its index, and the page that comes back computes how
many pages there are from the number of rows, each on its own.  Both agree on where a page ends, so
each row is in the window of exactly one page, and there is a next page as long as rows are left.

* `PageWindow.Shows`                 the rows in a window
* `PageWindow.offset64?`, `Pagination.countPages64?`
                                     offset and number of pages in arithmetic of 64 bits
* `Pagination.lt_countPages_iff`     how many pages there are, by the rows that do not fit on fewer
* `Pagination.windows_tile_rows`     the windows of the pages tile the rows -/

namespace SqlAssembly

namespace PageWindow

/-- Whether a row, counted from nought, is in the window. -/
def Shows (w : PageWindow) (row : Int) : Prop := w.offset ≤ row ∧ row < w.offset + w.size.val

/-- The offset of a page in arithmetic of 64 bits, none if a step of it overflows. -/
def offset64? (index size : IntWidth.int32.Carrier) : Option IntWidth.int64.Carrier :=
  (IntWidth.int64.ofInt? (index.val - 1)).bind fun before =>
    IntWidth.int64.ofInt? (before.val * size.val)

variable {index size : IntWidth.int32.Carrier} {countRows : Bool} {totals : String}

/-- A page shows a row if its index is the number of full pages in front of the row. -/
theorem shows_ofPage_iff (hsize : 0 < size.val) {row : Int} :
    (ofPage index size countRows totals).Shows row ↔ index.val - 1 = row / size.val := by
  have hend : (index.val - 1) * size.val + size.val = index.val * size.val := by
    rw [Int.sub_mul, Int.one_mul, Int.sub_add_cancel]
  show (index.val - 1) * size.val ≤ row ∧ row < (index.val - 1) * size.val + size.val ↔ _
  rw [hend, ← Int.le_ediv_iff_mul_le hsize, ← Int.ediv_lt_iff_lt_mul hsize]
  omega

end PageWindow

namespace IntWidth

private theorem ofInt?_eq_some {w : IntWidth} {n : Int} (hlo : w.lo ≤ n) (hhi : n ≤ w.hi) :
    w.ofInt? n = some ⟨n, hlo, hhi⟩ :=
  dif_pos ⟨hlo, hhi⟩

/-- A number of 32 bits, or one less, is far from the bounds of 64 bits, and so is its product with
    another number of 32 bits. -/
private theorem int64_mem_pred_mul (a b : IntWidth.int32.Carrier) :
    (int64.lo ≤ a.val - 1 ∧ a.val - 1 ≤ int64.hi) ∧
      int64.lo ≤ (a.val - 1) * b.val ∧ (a.val - 1) * b.val ≤ int64.hi := by
  have ha₁ : -2147483648 ≤ a.val := a.lo_le
  have ha₂ : a.val ≤ 2147483647 := a.le_hi
  have hb₁ : -2147483648 ≤ b.val := b.lo_le
  have hb₂ : b.val ≤ 2147483647 := b.le_hi
  have hlo : int64.lo = -9223372036854775808 := rfl
  have hhi : int64.hi = 9223372036854775807 := rfl
  -- Only the product is not linear, so its bound comes from those of its factors.
  have habs : |(a.val - 1) * b.val| ≤ 2147483649 * 2147483648 := by
    rw [abs_mul]
    refine mul_le_mul ?_ ?_ (abs_nonneg _) (by decide)
    · rw [abs_le]
      omega
    · rw [abs_le]
      omega
  rw [abs_le] at habs
  omega

end IntWidth

namespace PageWindow

/-- The offset of a page never overflows. -/
private theorem offset64?_eq (index size : IntWidth.int32.Carrier) (countRows : Bool)
    (totals : String) :
    (offset64? index size).map (·.val) = some (ofPage index size countRows totals).offset := by
  obtain ⟨⟨hlo, hhi⟩, hlo', hhi'⟩ := IntWidth.int64_mem_pred_mul index size
  rw [offset64?, IntWidth.ofInt?_eq_some hlo hhi, Option.bind_some,
    IntWidth.ofInt?_eq_some hlo' hhi']
  rfl

end PageWindow

namespace Pagination

/-- The number of pages in arithmetic of 64 bits, none if a step of it overflows. -/
def countPages64? (total : IntWidth.int64.Carrier) (size : IntWidth.int32.Carrier) :
    Option IntWidth.int32.Carrier :=
  if size.val ≤ 0 ∨ total.val ≤ 0 then some (IntWidth.int32.clamp 0)
  else
    (IntWidth.int64.ofInt? (total.val + size.val)).bind fun sum =>
      (IntWidth.int64.ofInt? (sum.val - 1)).map fun last =>
        IntWidth.int32.clamp (last.val / size.val)

section

variable {total size : Int}

/-- Division rounds up if one less than the divisor is added first. -/
private theorem ediv_eq_ceil (hsize : 0 < size) :
    (total + size - 1) / size = ⌈(total : ℚ) / (size : ℚ)⌉ := by
  have hsize' : (0 : ℚ) < size := Int.cast_pos.2 hsize
  -- Two integers are equal if the same integers are below both.
  refine eq_of_forall_lt_iff fun n => ?_
  rw [Int.lt_ceil, lt_div_iff₀ hsize', ← Int.cast_mul, Int.cast_lt, Int.lt_iff_add_one_le,
    Int.le_ediv_iff_mul_le hsize, Int.add_mul, Int.one_mul]
  omega

/-- Where 32 bits hold it, the number of pages is that of the rows divided by the rows of a page,
    rounded up. -/
theorem countPages_val (hsize : 0 < size) (htotal : 0 < total)
    (hfit : ⌈(total : ℚ) / (size : ℚ)⌉ ≤ IntWidth.int32.hi) :
    (countPages total size).val = ⌈(total : ℚ) / (size : ℚ)⌉ := by
  -- The number is positive and fits by assumption, so it is not clamped.
  have hpos : 0 < ⌈(total : ℚ) / (size : ℚ)⌉ :=
    Int.ceil_pos.2 (div_pos (Int.cast_pos.2 htotal) (Int.cast_pos.2 hsize))
  have hlo : IntWidth.int32.lo ≤ ⌈(total : ℚ) / (size : ℚ)⌉ :=
    Int.le_trans (IntWidth.lo_nonpos _) (Int.le_of_lt hpos)
  rw [countPages, if_neg (by omega), ediv_eq_ceil hsize]
  exact Bounded.clamp_of_mem _ hlo hfit

/-- There are more than `n` pages if there are more rows than on `n` pages. -/
theorem lt_countPages_iff (hsize : 0 < size) (htotal : 0 < total)
    (hfit : ⌈(total : ℚ) / (size : ℚ)⌉ ≤ IntWidth.int32.hi) {n : Int} :
    n < (countPages total size).val ↔ n * size < total := by
  rw [countPages_val hsize htotal hfit, Int.lt_ceil, lt_div_iff₀ (Int.cast_pos.2 hsize),
    ← Int.cast_mul, Int.cast_lt]

end

/-- If 32 bits hold the number of pages, then 64 bits hold all that it is computed from. -/
private theorem countPages64?_eq {total : IntWidth.int64.Carrier} {size : IntWidth.int32.Carrier}
    (hsize : 0 < size.val) (hfit : ⌈(total.val : ℚ) / (size.val : ℚ)⌉ ≤ IntWidth.int32.hi) :
    countPages64? total size = some (countPages total.val size.val) := by
  have hlo : IntWidth.int64.lo = -9223372036854775808 := rfl
  have hhi : IntWidth.int64.hi = 9223372036854775807 := rfl
  have hsize₂ : size.val ≤ 2147483647 := size.le_hi
  -- The sum is at most the rows on as many pages as 32 bits count, and one page more.
  have hrows : total.val ≤ 2147483647 * size.val := by
    have hfit' := Int.ceil_le.1 hfit
    rw [div_le_iff₀ (Int.cast_pos.2 hsize), ← Int.cast_mul, Int.cast_le] at hfit'
    exact hfit'
  rw [countPages64?, countPages]
  split
  · rfl
  · rename_i hpos
    rw [IntWidth.ofInt?_eq_some (by omega) (by omega), Option.bind_some]
    dsimp only
    rw [IntWidth.ofInt?_eq_some (by omega) (by omega)]
    rfl

/-- **The windows of the pages tile the rows**: if 32 bits hold the number of pages, every row is in
    the window of exactly one page, every page has a row, and there is a next page exactly if rows
    are left behind the window of this one.  Neither the number of pages nor an offset overflows 64
    bits on the way, an offset for no index and no size at all. -/
theorem windows_tile_rows {α : Type} (page : Pagination α) (countRows : Bool) (totals : String)
    (hsize : 0 < page.size.val) (htotal : 0 < page.totalCount.val)
    (hfit : ⌈(page.totalCount.val : ℚ) / (page.size.val : ℚ)⌉ ≤ IntWidth.int32.hi) :
    let window := fun index => PageWindow.ofPage index page.size countRows totals
    let isPage := fun index : IntWidth.int32.Carrier =>
      1 ≤ index.val ∧ index.val ≤ page.pageCount.val
    (∀ row, 0 ≤ row → row < page.totalCount.val →
        ∃! index, isPage index ∧ (window index).Shows row) ∧
      (∀ index, isPage index →
        ∃ row, 0 ≤ row ∧ row < page.totalCount.val ∧ (window index).Shows row) ∧
      (∀ index : IntWidth.int32.Carrier, 1 ≤ index.val →
        (hasNext { page with index } = true ↔
          (window index).offset + page.size.val < page.totalCount.val)) ∧
      countPages64? page.totalCount page.size = some page.pageCount ∧
      ∀ index size : IntWidth.int32.Carrier,
        (PageWindow.ofPage index size countRows totals).offset = (index.val - 1) * size.val ∧
          (PageWindow.offset64? index size).map (·.val) = some ((index.val - 1) * size.val) := by
  intro window isPage
  have hcount : ∀ n, n < page.pageCount.val ↔ n * page.size.val < page.totalCount.val := fun n =>
    lt_countPages_iff hsize htotal hfit
  have hshows : ∀ index row, (window index).Shows row ↔ index.val - 1 = row / page.size.val :=
    fun index row => PageWindow.shows_ofPage_iff hsize
  refine ⟨fun row hrow hlt => ?_, fun index hindex => ?_, fun index hindex => ?_,
    countPages64?_eq hsize hfit, fun index size => ⟨rfl, ?_⟩⟩
  · -- The page of a row is the one behind the full pages in front of it.
    have hfront : row / page.size.val < page.pageCount.val := by
      rw [hcount]
      exact Int.lt_of_le_of_lt (Int.ediv_mul_le row (by omega)) hlt
    have hnonneg : 0 ≤ row / page.size.val := Int.ediv_nonneg hrow (by omega)
    -- So the index of this page is one that 32 bits hold.
    have hhi := page.pageCount.le_hi
    have hlo := IntWidth.lo_nonpos .int32
    refine ⟨⟨row / page.size.val + 1, by omega, by omega⟩, ⟨⟨?_, ?_⟩, ?_⟩, ?_⟩
    · show 1 ≤ row / page.size.val + 1
      omega
    · show row / page.size.val + 1 ≤ page.pageCount.val
      omega
    · rw [hshows]
      show row / page.size.val + 1 - 1 = row / page.size.val
      omega
    · -- any page that shows the row has this index
      rintro index ⟨-, hindex⟩
      rw [hshows] at hindex
      refine Bounded.ext ?_
      show index.val = row / page.size.val + 1
      omega
  · -- The first row of a page is there, since the pages in front of it do not hold all rows.
    obtain ⟨hfirst, hlast⟩ := hindex
    refine ⟨(index.val - 1) * page.size.val, Int.mul_nonneg (by omega) (by omega), ?_, ?_⟩
    · rw [← hcount]
      omega
    · rw [hshows, Int.mul_ediv_cancel _ (by omega)]
  · -- The next page is there if the rows go on behind the end of this one.
    have hend : (window index).offset + page.size.val = index.val * page.size.val := by
      show (index.val - 1) * page.size.val + page.size.val = _
      rw [Int.sub_mul, Int.one_mul, Int.sub_add_cancel]
    rw [hend, ← hcount, hasNext, decide_eq_true_iff]
    rfl
  · exact PageWindow.offset64?_eq index size countRows totals

/-- As many rows as 32 bits can count pages of, on pages as long as 32 bits can say. -/
def fullestPage : Pagination Unit :=
  ⟨[], IntWidth.int32.clamp 2147483646, IntWidth.int32.clamp 2147483647,
    IntWidth.int64.clamp 4611686014132420609, none⟩

/-- The last row is on the last page that has an index, and the page in front of it has a next
    one. -/
theorem windows_tile_fullestPage :
    (0 < fullestPage.size.val ∧ 0 < fullestPage.totalCount.val ∧
      ⌈(fullestPage.totalCount.val : ℚ) / (fullestPage.size.val : ℚ)⌉ ≤ IntWidth.int32.hi) ∧
    fullestPage.hasNext = true ∧
    ∃! index : IntWidth.int32.Carrier,
      (1 ≤ index.val ∧ index.val ≤ fullestPage.pageCount.val) ∧
        (PageWindow.ofPage index fullestPage.size true "").Shows 4611686014132420608 := by
  have hsize : 0 < fullestPage.size.val := by decide
  have htotal : 0 < fullestPage.totalCount.val := by decide
  have hrows : fullestPage.totalCount.val = 4611686014132420609 := by decide
  have hlength : fullestPage.size.val = 2147483647 := by decide
  have hfit : ⌈(fullestPage.totalCount.val : ℚ) / (fullestPage.size.val : ℚ)⌉ ≤
      IntWidth.int32.hi := by
    rw [← ediv_eq_ceil hsize]
    decide
  have htile := windows_tile_rows fullestPage true "" hsize htotal hfit
  refine ⟨⟨hsize, htotal, hfit⟩, ?_, htile.1 _ (by decide) (by decide)⟩
  exact (htile.2.2.1 fullestPage.index (by decide)).2 (by decide)

end Pagination

end SqlAssembly
