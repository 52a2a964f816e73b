import SqlAssembly.Calendar.Layout
import SqlAssembly.Calendar.Text
import SqlAssembly.Proofs.DecimalText

/-! # Texts written to a layout

The reader of a layout takes fewer digits than an item is wide, blanks in front of numbers and any
run of blanks for a blank.  So it has to be shown that none of this freedom is used on a text whose
numbers are filled up with noughts: each item takes the characters written for it and no more.

* `Layout.readNumber?_padded`, `Layout.readExact?_padded`   a number filled up with noughts
* `Layout.readFraction?_padded`               a fraction of a second
* `Layout.Item.write`, `Layout.Item.fill`    what is written for an item and read from it
* `Layout.readItem?_write`                   an item reads what was written for it
* `Layout.read?_write_append`                so does a layout with other items behind it
* `Layout.read?_date_ne`                     days with another mark between their fields -/

namespace SqlAssembly

/-! ## Digits at the ends of a text -/

namespace Numeral

theorem not_isBlank_of_isDigit {c : Char} (h : isDigit c = true) : Text.isBlank c = false := by
  simp only [isDigit, Bool.and_eq_true, decide_eq_true_eq] at h
  simp only [Text.isBlank, Bool.or_eq_false_iff, Bool.and_eq_false_iff, decide_eq_false_iff_not]
  omega

private theorem not_isBlank_of_mem_padded {width n : Nat} {c : Char} (h : c ∈ padded width n) :
    Text.isBlank c = false :=
  not_isBlank_of_isDigit (isDigit_of_mem_padded h)

end Numeral

namespace Text

/-- There is nothing to leave off in front of what starts with no white space. -/
theorem trimLeft_append {front : List Char} (hfront : front ≠ [])
    (hink : ∀ c ∈ front, isBlank c = false) (rest : List Char) :
    trimLeft (front ++ rest) = front ++ rest := by
  obtain ⟨c, cs, rfl⟩ := List.exists_cons_of_ne_nil hfront
  simp [trimLeft, hink c List.mem_cons_self]

/-- There is nothing to leave off a text with no white space at its ends. -/
private theorem trimChars_append {front back : List Char} (hfront : front ≠ []) (hback : back ≠ [])
    (hink : ∀ c ∈ front ++ back, isBlank c = false) (mid : List Char) :
    trimChars (front ++ mid ++ back) = front ++ mid ++ back := by
  have hleft : trimLeft (front ++ mid ++ back) = front ++ mid ++ back := by
    rw [List.append_assoc]
    exact trimLeft_append hfront (fun c hc => hink c (List.mem_append_left _ hc)) _
  -- The end of a text is the front of its reverse.
  have hright : trimLeft (back.reverse ++ (front ++ mid).reverse) =
      back.reverse ++ (front ++ mid).reverse :=
    trimLeft_append (by simpa using hback)
      (fun c hc => hink c (List.mem_append_right _ (List.mem_reverse.1 hc))) _
  rw [trimChars, hleft, trimRight, List.reverse_append]
  exact (congrArg List.reverse hright).trans (by simp)

/-- A text that starts and ends in numbers has no white space at its ends. -/
theorem trimChars_padded (width₁ n₁ : Nat) (mid : List Char) (width₂ n₂ : Nat) :
    trimChars (Numeral.padded width₁ n₁ ++ mid ++ Numeral.padded width₂ n₂) =
      Numeral.padded width₁ n₁ ++ mid ++ Numeral.padded width₂ n₂ :=
  trimChars_append (Numeral.padded_ne_nil _ _) (Numeral.padded_ne_nil _ _)
    (fun _ hc => (List.mem_append.1 hc).elim Numeral.not_isBlank_of_mem_padded
      Numeral.not_isBlank_of_mem_padded) mid

private theorem trimLeft_padded (width n : Nat) (rest : List Char) :
    trimLeft (Numeral.padded width n ++ rest) = Numeral.padded width n ++ rest :=
  trimLeft_append (Numeral.padded_ne_nil _ _) (fun _ => Numeral.not_isBlank_of_mem_padded) _

end Text

namespace Layout

open Numeral Text

/-! ## Numbers filled up with noughts -/

/-- The digits at the front of a text, up to the width of a number, are the number's. -/
private theorem takeWhile_take_padded {w n : Nat} (h : n < Nat.pow 10 (w + 1)) (rest : List Char) :
    ((padded (w + 1) n ++ rest).take (w + 1)).takeWhile isDigit = padded (w + 1) n := by
  rw [List.take_left' (length_padded h)]
  -- All characters of the number are digits, so nothing stops the run inside it.
  have hdigits : (padded (w + 1) n ++ []).takeWhile isDigit = padded (w + 1) n ++ [] :=
    List.takeWhile_append_of_pos fun _ hc => isDigit_of_mem_padded hc
  rwa [List.append_nil] at hdigits

theorem readExact?_padded {w n : Nat} (h : n < Nat.pow 10 (w + 1)) (rest : List Char) :
    readExact? (w + 1) (padded (w + 1) n ++ rest) = some (n, rest) := by
  simp only [readExact?, takeWhile_take_padded h, length_padded h, if_true, decimalValue_padded]
  rw [List.drop_left' (length_padded h)]

theorem readNumber?_padded {w n : Nat} (h : n < Nat.pow 10 (w + 1)) (rest : List Char) :
    readNumber? (w + 1) (padded (w + 1) n ++ rest) = some (n, rest) := by
  -- A number needs one digit at least.
  have hsome : (padded (w + 1) n).isEmpty = false :=
    List.isEmpty_eq_false_iff.2 (padded_ne_nil _ _)
  simp only [readNumber?, takeWhile_take_padded h, hsome, length_padded h, decimalValue_padded,
    Bool.false_eq_true, if_false]
  rw [List.drop_left' (length_padded h)]

theorem readExact?_twoDigits {n : Nat} (h : n < 100) (rest : List Char) :
    readExact? 2 (twoDigits n ++ rest) = some (n, rest) :=
  readExact?_padded (w := 1) h rest

/-- Blanks may stand in front of two digits, but none do. -/
private theorem readNumber?_twoDigits {n : Nat} (h : n < 100) (rest : List Char) :
    readNumber? 2 (trimLeft (twoDigits n ++ rest)) = some (n, rest) := by
  rw [twoDigits, trimLeft_padded]
  exact readNumber?_padded (w := 1) h rest

/-- A year of four digits has no sign in front of it. -/
private theorem readYear?_padded {n : Nat} (h : n < 10000) (rest : List Char) :
    readYear? (padded 4 n ++ rest) = some ((n : Int), rest) := by
  have hread := readNumber?_padded (w := 3) h rest
  obtain ⟨c, cs, hcs⟩ := List.exists_cons_of_ne_nil (padded_ne_nil 4 n)
  -- A sign would have been taken off in front, but a digit is no sign.
  have hdigit : isDigit c = true := isDigit_of_mem_padded (hcs ▸ List.mem_cons_self)
  rw [hcs, List.cons_append] at hread ⊢
  rw [readYear?, hread]
  · rfl
  · rintro _ ⟨⟩
    exact absurd hdigit (by decide)
  · rintro _ ⟨⟩
    exact absurd hdigit (by decide)

/-! ## Fractions -/

/-- A fraction of up to nine digits is read in nanoseconds. -/
theorem readFraction?_padded {w n : Nat} (hw : w < 9) (h : n < Nat.pow 10 (w + 1)) {c : Char}
    (hc : isDigit c = false) (rest : List Char) :
    readFraction? (padded (w + 1) n ++ c :: rest) = some (n * Nat.pow 10 (8 - w), c :: rest) := by
  -- The digits end at the character behind them …
  have hdigits : (padded (w + 1) n ++ c :: rest).takeWhile isDigit = padded (w + 1) n := by
    rw [List.takeWhile_append_of_pos fun _ hd => isDigit_of_mem_padded hd,
      List.takeWhile_cons_of_neg (by simp [hc]), List.append_nil]
  have hsome : (padded (w + 1) n).isEmpty = false :=
    List.isEmpty_eq_false_iff.2 (padded_ne_nil _ _)
  -- … and there are not more of them than a nanosecond has.
  have hkept : (padded (w + 1) n).take 9 = padded (w + 1) n :=
    List.take_of_length_le (by rw [length_padded h]; omega)
  have hmissing : 9 - (w + 1) = 8 - w := by omega
  simp only [readFraction?, hdigits, hsome, hkept, length_padded h, decimalValue_padded, hmissing,
    Bool.false_eq_true, if_false]
  rw [List.drop_left' (length_padded h)]

/-- A fraction is written as nothing for nought, and else behind a point so that it is read back in
    front of what is no digit. -/
theorem fractionText_cases {nanos : Nat} (h : nanos < 1000000000) :
    (nanos = 0 ∧ fractionText nanos = []) ∨
      ∃ digits, fractionText nanos = '.' :: digits ∧ ∀ c rest, isDigit c = false →
        readFraction? (digits ++ c :: rest) = some (nanos, c :: rest) := by
  unfold fractionText
  split
  · exact .inl ⟨‹_›, rfl⟩
  · refine .inr ?_
    split
    · refine ⟨_, rfl, fun c rest hc => ?_⟩
      -- Three digits are written if the rest are noughts.
      have hbound : nanos / 1000000 < 1000 := by omega
      have hexact : nanos / 1000000 * 1000000 = nanos := by omega
      rw [readFraction?_padded (w := 2) (by decide) hbound hc]
      exact congrArg (fun n => some (n, c :: rest)) hexact
    · split
      · refine ⟨_, rfl, fun c rest hc => ?_⟩
        -- Six digits are written if the last three are noughts.
        have hbound : nanos / 1000 < 1000000 := by omega
        have hexact : nanos / 1000 * 1000 = nanos := by omega
        rw [readFraction?_padded (w := 5) (by decide) hbound hc]
        exact congrArg (fun n => some (n, c :: rest)) hexact
      · refine ⟨_, rfl, fun c rest hc => ?_⟩
        rw [readFraction?_padded (w := 8) (by decide) h hc]
        exact congrArg (fun n => some (n, c :: rest)) (Nat.mul_one nanos)

/-! ## Items -/

end Layout

/-- Whether the fields fill no more than four digits for the year, two for each of the others and
    nine for the fraction. -/
structure ClockFields.IsWritable (f : ClockFields) : Prop where
  year_nonneg : 0 ≤ f.year
  year_le : f.year ≤ 9999
  month_lt : f.month < 100
  day_lt : f.day < 100
  hour_lt : f.hour < 100
  minute_lt : f.minute < 100
  second_lt : f.second < 100
  nanos_lt : f.nanos < 1000000000

namespace Layout

open Numeral Text

namespace Item

/-- What is written for an item.  A blank is written as one space. -/
def write (f : ClockFields) : Item → List Char
  | .year => yearText f.year
  | .month => twoDigits f.month
  | .day => twoDigits f.day
  | .hour => twoDigits f.hour
  | .minute => twoDigits f.minute
  | .second => twoDigits f.second
  | .fraction => fractionText f.nanos
  | .blank => [' ']
  | .mark c => [c]

/-- The fields `f` with the one that an item stands for taken from `g`. -/
def fill (g f : ClockFields) : Item → ClockFields
  | .year => { f with year := g.year }
  | .month => { f with month := g.month }
  | .day => { f with day := g.day }
  | .hour => { f with hour := g.hour }
  | .minute => { f with minute := g.minute }
  | .second => { f with second := g.second }
  | .fraction => { f with nanos := g.nanos }
  | .blank | .mark _ => f

/-- Whether an item is a number that always has the same number of digits. -/
def isNumber : Item → Bool
  | .year | .month | .day | .hour | .minute | .second => true
  | .fraction | .blank | .mark _ => false

/-- What is written for a number starts with a digit. -/
theorem exists_write_eq_padded {item : Item} (h : item.isNumber = true) {g : ClockFields}
    (hg : g.IsWritable) : ∃ width n, item.write g = padded width n := by
  cases item
  case year => exact ⟨4, _, if_pos ⟨hg.year_nonneg, hg.year_le⟩⟩
  case month | day | hour | minute | second => exact ⟨2, _, rfl⟩
  case fraction | blank | mark => exact absurd h (by simp [isNumber])

end Item

/-- What is written for the items of a layout. -/
def write (items : List Item) (f : ClockFields) : List Char := items.flatMap (Item.write f)

/-- The fields `f` with those that the items stand for taken from `g`. -/
def fill (items : List Item) (g f : ClockFields) : ClockFields := items.foldl (Item.fill g) f

/-- A number reads what was written for it, whatever stands behind. -/
private theorem readItem?_write_isNumber {item : Item} (h : item.isNumber = true) {g : ClockFields}
    (hg : g.IsWritable) (f : ClockFields) (rest : List Char) :
    readItem? item f (item.write g ++ rest) = some (item.fill g f, rest) := by
  cases item
  case year =>
    -- A writable year has four digits and no sign.
    have hyear : yearText g.year = padded 4 g.year.natAbs := if_pos ⟨hg.year_nonneg, hg.year_le⟩
    have hbound : g.year.natAbs < 10000 := by have := hg.year_nonneg; have := hg.year_le; omega
    have habs : (g.year.natAbs : Int) = g.year := Int.natAbs_of_nonneg hg.year_nonneg
    simp [readItem?, Item.write, Item.fill, hyear, trimLeft_padded, readYear?_padded hbound, habs]
  case month => simp [readItem?, Item.write, Item.fill, readNumber?_twoDigits hg.month_lt]
  case day => simp [readItem?, Item.write, Item.fill, readNumber?_twoDigits hg.day_lt]
  case hour => simp [readItem?, Item.write, Item.fill, readNumber?_twoDigits hg.hour_lt]
  case minute => simp [readItem?, Item.write, Item.fill, readNumber?_twoDigits hg.minute_lt]
  case second => simp [readItem?, Item.write, Item.fill, readNumber?_twoDigits hg.second_lt]
  case fraction | blank | mark => exact absurd h (by simp [Item.isNumber])

/-! ## Layouts -/

/-- Whether a layout has no fraction and a number behind each blank, so that it can be told where
    what is written for an item ends. -/
def isPlain : List Item → Bool
  | [] => true
  | .fraction :: _ => false
  | .blank :: items => items.head?.any Item.isNumber && isPlain items
  | _ :: items => isPlain items

private theorem isPlain_tail {item : Item} {items : List Item}
    (h : isPlain (item :: items) = true) : isPlain items = true := by
  cases item with
  | fraction => exact absurd h Bool.false_ne_true
  | blank => exact (Bool.and_eq_true_iff.1 h).2
  | _ => exact h

/-- **An item reads what was written for it** in a plain layout. -/
theorem readItem?_write {item : Item} {items : List Item} (h : isPlain (item :: items) = true)
    {g : ClockFields} (hg : g.IsWritable) (f : ClockFields) (rest : List Char) :
    readItem? item f (item.write g ++ (write items g ++ rest)) =
      some (item.fill g f, write items g ++ rest) := by
  cases item with
  | fraction => exact absurd h Bool.false_ne_true
  | blank =>
    -- The blank takes one space, for the number behind it starts with a digit.
    obtain ⟨next, items, rfl⟩ : ∃ next tail, items = next :: tail := by
      cases items with
      | nil => exact absurd h Bool.false_ne_true
      | cons next tail => exact ⟨next, tail, rfl⟩
    obtain ⟨width, n, hnext⟩ := Item.exists_write_eq_padded (Bool.and_eq_true_iff.1 h).1 hg
    have htrim : trimLeft (' ' :: (write (next :: items) g ++ rest)) =
        write (next :: items) g ++ rest := by
      rw [write, List.flatMap_cons, hnext, List.append_assoc]
      exact trimLeft_padded width n _
    exact congrArg (fun cs => some (f, cs)) htrim
  | mark c => simp [readItem?, Item.write, Item.fill]
  | _ => exact readItem?_write_isNumber rfl hg f _

/-- **A plain layout reads what was written to it**, whatever other items stand behind. -/
theorem read?_write_append {items : List Item} (h : isPlain items = true) {g : ClockFields}
    (hg : g.IsWritable) (more : List Item) (f : ClockFields) (rest : List Char) :
    read? (items ++ more) f (write items g ++ rest) = read? more (fill items g f) rest := by
  -- By induction on the layout, for any fields filled so far.
  induction items generalizing f with
  | nil => rfl
  | cons item items ih =>
    have hstep := readItem?_write h hg f rest
    rw [List.cons_append, write, List.flatMap_cons, List.append_assoc, read?]
    rw [write] at hstep
    rw [hstep]
    exact ih (isPlain_tail h) (item.fill g f)

theorem read?_write {items : List Item} (h : isPlain items = true) {g : ClockFields}
    (hg : g.IsWritable) (f : ClockFields) :
    read? items f (write items g) = some (fill items g f) := by
  have hread := read?_write_append h hg [] f []
  rwa [List.append_nil, List.append_nil] at hread

/-- There are no blanks at the ends of what starts and ends in a number. -/
theorem trimChars_write {first last : Item} (hfirst : first.isNumber = true)
    (hlast : last.isNumber = true) {g : ClockFields} (hg : g.IsWritable) (items : List Item) :
    trimChars (write (first :: items ++ [last]) g) = write (first :: items ++ [last]) g := by
  obtain ⟨width₁, n₁, heq₁⟩ := Item.exists_write_eq_padded hfirst hg
  obtain ⟨width₂, n₂, heq₂⟩ := Item.exists_write_eq_padded hlast hg
  -- What stands between the two numbers does not matter.
  have hsplit : write (first :: items ++ [last]) g =
      padded width₁ n₁ ++ write items g ++ padded width₂ n₂ := by
    simp [write, heq₁, heq₂]
  rw [hsplit]
  exact trimChars_padded width₁ n₁ _ width₂ n₂

/-! ## Layouts that are tried in vain -/

/-- A day is not read from a text with another mark between its fields. -/
theorem read?_date_ne {sep sep' : Char} (hne : sep ≠ sep') {g : ClockFields} (hg : g.IsWritable)
    (more : List Item) (f : ClockFields) (rest : List Char) :
    read? (date sep ++ more) f (write (date sep') g ++ rest) = none := by
  -- The year is read, and the mark behind it is the wrong one.
  have hsplit : write (date sep') g ++ rest =
      write [.year] g ++ sep' :: (write [.month, .mark sep', .day] g ++ rest) := by
    simp [write, date, Item.write]
  have hyear : isPlain [.year] = true := rfl
  rw [hsplit, date]
  exact (read?_write_append hyear hg _ f _).trans (by simp [read?, readItem?, hne])

/-- What is read behind a day is not read from the text of a day alone. -/
theorem read?_write_date {behind : List Item} (hbehind : ∀ f, read? behind f [] = none)
    {g : ClockFields} (hg : g.IsWritable) (sep sep' : Char) (f : ClockFields) :
    read? (date sep ++ behind) f (write (date sep') g) = none := by
  by_cases hsep : sep = sep'
  · -- the day is read, and nothing is left for what stands behind it
    have hread := read?_write_append (rfl : isPlain (date sep) = true) hg behind f []
    rw [List.append_nil] at hread
    rw [← hsep, hread]
    exact hbehind _
  · -- the day is not read at all
    have hread := read?_date_ne hsep hg behind f []
    rwa [List.append_nil] at hread

/-- A clock reading with a blank in the middle is not read from a text with a `T`. -/
theorem read?_blank_of_mark {g : ClockFields} (hg : g.IsWritable) (sep : Char)
    (more more' : List Item) (f : ClockFields) :
    read? (date sep ++ .blank :: .hour :: more) f (write (date sep ++ .mark 'T' :: more') g) =
      none := by
  rw [write, List.flatMap_append]
  exact read?_write_append (rfl : isPlain (date sep) = true) hg _ f _

end Layout

end SqlAssembly
