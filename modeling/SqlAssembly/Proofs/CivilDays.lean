import SqlAssembly.Calendar.Civil

/-! # The civil date of a day number

The date of a day number is found by divisions that a leap day would throw off, were they not
corrected by the days that the leap years of an era make.  The corrections are exact: the date is a
day of the calendar, and its number is the one that it was found from, so that numbers and days of
the calendar belong together one by one.

* `CivilDate.yearOfEra`, `CivilDate.daysBefore`   years of an era, reckoned from March
* `CivilDate.yearOfEra_spec`                      the year of a day starts in front of it
* `CivilDate.IsSplit`                             a day number split into era, year, month and day
* `CivilDate.dayNumber_ofDayNumber`               a date has the number that it was found from
* `CivilDate.valid_ofDayNumber`                   it is a day of the calendar
* `CivilDate.ofDayNumber_dayNumber`               each date is found from its number -/

namespace SqlAssembly.CivilDate

/-! ## Years of an era -/

/-- The year of an era that a day of the era is in, both from nought on. -/
def yearOfEra (day : Int) : Int := (day - day / 1460 + day / 36524 - day / 146096) / 365

/-- The days of an era in front of a year of it. -/
def daysBefore (year : Int) : Int := 365 * year + year / 4 - year / 100

/-- A century of years is a century of days, but for the last day of an era. -/
private theorem yearOfEra_div_hundred {day : Int} (hfirst : 0 ≤ day) (hlast : day < 146096) :
    yearOfEra day / 100 = day / 36524 := by
  have hcentury : day / 36524 = 0 ∨ day / 36524 = 1 ∨ day / 36524 = 2 ∨ day / 36524 = 3 := by
    omega
  have hend : day / 146096 = 0 := by omega
  rw [yearOfEra, hend]
  rcases hcentury with h | h | h | h <;> omega

/-- The year of a day starts in front of the day and is not over yet.  It has a 366th day only if
    the year that its February is in is a leap year. -/
theorem yearOfEra_spec {day : Int} (hfirst : 0 ≤ day) (hlast : day ≤ 146096) :
    0 ≤ yearOfEra day ∧ yearOfEra day ≤ 399 ∧ daysBefore (yearOfEra day) ≤ day ∧
      day - daysBefore (yearOfEra day) ≤ 365 ∧
      (day - daysBefore (yearOfEra day) = 365 → isLeap (yearOfEra day + 1) = true) := by
  rcases Int.lt_or_eq_of_le hlast with hlt | rfl
  · have hhundred := yearOfEra_div_hundred hfirst hlt
    have hcentury : day / 36524 = 0 ∨ day / 36524 = 1 ∨ day / 36524 = 2 ∨ day / 36524 = 3 := by
      omega
    have hend : day / 146096 = 0 := by omega
    -- The last term counts only on the last day of an era.
    have hyear : yearOfEra day = (day - day / 1460 + day / 36524) / 365 := by
      rw [yearOfEra, hend, Int.sub_zero]
    generalize yearOfEra day = year at *
    have hspec : 0 ≤ year ∧ year ≤ 399 ∧ daysBefore year ≤ day ∧ day - daysBefore year ≤ 365 ∧
        (day - daysBefore year = 365 → year % 4 = 3 ∧ year % 100 ≠ 99) := by
      unfold daysBefore
      -- Within a century the leap years are every fourth one, which is linear.
      rcases hcentury with h | h | h | h <;> omega
    obtain ⟨h₁, h₂, h₃, h₄, hleap⟩ := hspec
    refine ⟨h₁, h₂, h₃, h₄, fun h => ?_⟩
    obtain ⟨hfour, hhundredth⟩ := hleap h
    have hfour' : (year + 1) % 4 = 0 := by omega
    have hhundredth' : (year + 1) % 100 ≠ 0 := by omega
    simp [isLeap, hfour', hhundredth']
  · -- the last day of an era, the 366th of its last year
    decide

/-- The next year starts behind the last day of a year. -/
private theorem daysBefore_succ {year : Int} (hfirst : 0 ≤ year) (hlast : year ≤ 398) :
    daysBefore (year + 1) = daysBefore year + if isLeap (year + 1) = true then 366 else 365 := by
  unfold daysBefore isLeap
  simp only [Bool.and_eq_true, Bool.or_eq_true, decide_eq_true_eq]
  split <;> omega

private theorem daysBefore_mono {year year' : Int} (h : year ≤ year') :
    daysBefore year ≤ daysBefore year' := by
  unfold daysBefore
  omega

/-- A day of a year is in no other year. -/
private theorem yearOfEra_eq {year day : Int} (hfirst : 0 ≤ year) (hlast : year ≤ 399)
    (hday : 0 ≤ day) (hlength : day < if isLeap (year + 1) = true then 366 else 365) :
    yearOfEra (daysBefore year + day) = year := by
  have hlong : day ≤ 365 := by
    split at hlength <;> omega
  have hbound : 0 ≤ daysBefore year + day ∧ daysBefore year + day ≤ 146096 := by
    unfold daysBefore
    omega
  obtain ⟨hfirst', hlast', hstart, hend, hleap⟩ := yearOfEra_spec hbound.1 hbound.2
  generalize yearOfEra (daysBefore year + day) = year' at *
  -- An earlier year is over by then, and a later one has not begun.
  rcases Int.lt_trichotomy year' year with hlt | heq | hgt
  · have hmono := daysBefore_mono hlt
    rw [daysBefore_succ hfirst' (by omega)] at hmono
    split at hmono
    · omega
    · rename_i hcommon
      exact absurd (hleap (by omega)) hcommon
  · exact heq
  · have hmono := daysBefore_mono hgt
    rw [daysBefore_succ hfirst (by omega)] at hmono
    omega

/-- Leap years are the same in every era. -/
private theorem isLeap_add_era (year era : Int) :
    isLeap (year + era * 400 + 1) = isLeap (year + 1) := by
  -- Each of the three periods goes into the years of an era.
  have hfour : (year + era * 400 + 1) % 4 = (year + 1) % 4 := by omega
  have hhundred : (year + era * 400 + 1) % 100 = (year + 1) % 100 := by omega
  have hera : (year + era * 400 + 1) % 400 = (year + 1) % 400 := by omega
  rw [isLeap, isLeap, hfour, hhundred, hera]

/-! ## Months -/

/-- A day number split into the era, the year of the era, the month and the day of the year, all
    from nought and from March on. -/
structure IsSplit (n era year month day : Int) : Prop where
  eq : n + epochShift = era * 146097 + (daysBefore year + day)
  year_nonneg : 0 ≤ year
  year_le : year ≤ 399
  day_nonneg : 0 ≤ day
  day_le : day ≤ 365
  leap : day = 365 → isLeap (year + 1) = true
  month_eq : month = (5 * day + 2) / 153

/-- The date of a split day number. -/
def ofSplit (era year month day : Int) : CivilDate :=
  let civilMonth := if month < 10 then month + 3 else month - 9
  let civilYear := year + era * 400
  ⟨if civilMonth ≤ 2 then civilYear + 1 else civilYear, civilMonth.toNat,
    (day - (153 * month + 2) / 5 + 1).toNat⟩

/-- The date of a day number is that of its parts. -/
private theorem exists_isSplit (n : Int) :
    ∃ era year month day, IsSplit n era year month day ∧
      ofDayNumber n = ofSplit era year month day := by
  obtain ⟨hfirst, hlast⟩ : 0 ≤ (n + epochShift) % 146097 ∧ (n + epochShift) % 146097 ≤ 146096 := by
    omega
  obtain ⟨h₁, h₂, h₃, h₄, hleap⟩ := yearOfEra_spec hfirst hlast
  exact ⟨_, _, _, _, ⟨by omega, h₁, h₂, by omega, h₄, hleap, rfl⟩, rfl⟩

namespace IsSplit

variable {n era year month day : Int}

/-- There are twelve months. -/
private theorem month_bounds (h : IsSplit n era year month day) : 0 ≤ month ∧ month ≤ 11 := by
  have := h.day_nonneg
  have := h.day_le
  have := h.month_eq
  omega

/-- The number of the date of a split day number is that number. -/
private theorem dayNumber_ofSplit (h : IsSplit n era year month day) :
    (ofSplit era year month day).dayNumber = n := by
  obtain ⟨hmonth₁, hmonth₂⟩ := h.month_bounds
  obtain ⟨heq, hyear₁, hyear₂, hday₁, hday₂, -, hmonth⟩ := h
  -- March and the months behind it are in the civil year of the same number.
  have hcivil : (if (ofSplit era year month day).month ≤ 2 then
      (ofSplit era year month day).year - 1
      else (ofSplit era year month day).year) = year + era * 400 := by
    simp only [ofSplit]
    split <;> split <;> split <;> omega
  have hmonth' : (((ofSplit era year month day).month + 9) % 12 : Nat) = month := by
    simp only [ofSplit]
    split <;> omega
  have hday' : ((ofSplit era year month day).day : Int) = day - (153 * month + 2) / 5 + 1 := by
    simp only [ofSplit]
    omega
  -- With the parts in place both sides are linear in them.
  unfold daysBefore at heq
  simp only [dayNumber, hcivil, hmonth', hday']
  omega

/-- The date of a split day number is in a month that has that day. -/
private theorem day_le_daysInMonth (h : IsSplit n era year month day) :
    (ofSplit era year month day).day ≤
      daysInMonth (ofSplit era year month day).year (ofSplit era year month day).month := by
  obtain ⟨-, -, -, hday₁, hday₂, hleap, hmonth⟩ := h
  have hmonths : month = 11 ∨ (month = 1 ∨ month = 3 ∨ month = 6 ∨ month = 8) ∨
      (month = 0 ∨ month = 2 ∨ month = 4 ∨ month = 5 ∨ month = 7 ∨ month = 9 ∨ month = 10) := by
    omega
  rcases hmonths with rfl | hshort | hlong
  · -- February is the last month of the year, so only its length depends on the year.
    show (day - (153 * 11 + 2) / 5 + 1).toNat ≤
      if isLeap (year + era * 400 + 1) = true then 29 else 28
    rw [isLeap_add_era]
    split
    · omega
    · rename_i hcommon
      have : day ≠ 365 := fun h => hcommon (hleap h)
      omega
  · -- the months of thirty days
    rcases hshort with rfl | rfl | rfl | rfl
    all_goals
      show Int.toNat _ ≤ 30
      omega
  · -- the months of thirty-one days
    rcases hlong with rfl | rfl | rfl | rfl | rfl | rfl | rfl
    all_goals
      show Int.toNat _ ≤ 31
      omega

end IsSplit

/-- **A date has the number that it was found from.** -/
theorem dayNumber_ofDayNumber (n : Int) : (ofDayNumber n).dayNumber = n := by
  obtain ⟨era, year, month, day, hsplit, heq⟩ := exists_isSplit n
  rw [heq, hsplit.dayNumber_ofSplit]

/-- The date of a day number is a day of the calendar, if dates are reckoned that far. -/
theorem valid_ofDayNumber {n : Int} (hfirst : firstYear ≤ (ofDayNumber n).year)
    (hlast : (ofDayNumber n).year ≤ lastYear) : (ofDayNumber n).Valid := by
  obtain ⟨era, year, month, day, hsplit, heq⟩ := exists_isSplit n
  obtain ⟨hmonth₁, hmonth₂⟩ := hsplit.month_bounds
  have hday := hsplit.day_le_daysInMonth
  have hmonth : 1 ≤ (ofSplit era year month day).month ∧
      (ofSplit era year month day).month ≤ 12 := by
    simp only [ofSplit]
    split <;> omega
  have hpos : 1 ≤ (ofSplit era year month day).day := by
    have := hsplit.month_eq
    simp only [ofSplit]
    omega
  rw [heq] at hfirst hlast ⊢
  exact ⟨hfirst, hlast, hmonth.1, hmonth.2, hpos, hday⟩

/-! ## The day number of a date -/

/-- A day number is split in one way only. -/
private theorem IsSplit.ofDayNumber_eq {n era year month day : Int}
    (h : IsSplit n era year month day) : ofDayNumber n = ofSplit era year month day := by
  obtain ⟨heq, hyear₁, hyear₂, hday₁, hday₂, hleap, hmonth⟩ := h
  have hlength : day < if isLeap (year + 1) = true then 366 else 365 := by
    split
    · omega
    · rename_i hcommon
      have : day ≠ 365 := fun h => hcommon (hleap h)
      omega
  have hyear := yearOfEra_eq hyear₁ hyear₂ hday₁ hlength
  have hbound : 0 ≤ daysBefore year + day ∧ daysBefore year + day < 146097 := by
    unfold daysBefore
    omega
  -- The days in front fill whole eras, so that division finds the era.
  have hera : (n + epochShift) / 146097 = era := by omega
  have hdays : (n + epochShift) % 146097 = daysBefore year + day := by omega
  have hday : daysBefore year + day - daysBefore year = day := by omega
  show ofSplit ((n + epochShift) / 146097) (yearOfEra ((n + epochShift) % 146097))
    ((5 * ((n + epochShift) % 146097 -
      daysBefore (yearOfEra ((n + epochShift) % 146097))) + 2) / 153)
    ((n + epochShift) % 146097 - daysBefore (yearOfEra ((n + epochShift) % 146097))) = _
  rw [hera, hdays, hyear, hday, hmonth]

/-- The month and the day of the year of a date, both from nought and from March on. -/
private theorem dayOfYear_bounds {d : CivilDate} (h : d.Valid) {month day : Int}
    (hmonth : month = ((d.month + 9) % 12 : Nat)) (hday : day = (153 * month + 2) / 5 + d.day - 1) :
    0 ≤ day ∧ day ≤ 365 ∧ month = (5 * day + 2) / 153 ∧
      (day = 365 → d.month = 2 ∧ isLeap d.year = true) := by
  obtain ⟨-, -, hmonth₁, hmonth₂, hday₁, hday₂⟩ := h
  have hmonths : d.month = 2 ∨ (d.month = 4 ∨ d.month = 6 ∨ d.month = 9 ∨ d.month = 11) ∨
      (d.month = 1 ∨ d.month = 3 ∨ d.month = 5 ∨ d.month = 7 ∨ d.month = 8 ∨ d.month = 10 ∨
        d.month = 12) := by omega
  -- The year begins in March, so that the 366th day is the end of a February.
  rcases hmonths with hfeb | hshort | hlong
  · rw [hfeb] at hday₂ hmonth
    have hlength : d.day ≤ if isLeap d.year = true then 29 else 28 := hday₂
    split at hlength
    · rename_i hleap
      exact ⟨by omega, by omega, by omega, fun _ => ⟨hfeb, hleap⟩⟩
    · exact ⟨by omega, by omega, by omega, by omega⟩
  · have hlength : d.day ≤ 30 := by
      rcases hshort with h | h | h | h <;> rw [h] at hday₂ <;> exact hday₂
    rcases hshort with h | h | h | h <;> rw [h] at hmonth <;>
      exact ⟨by omega, by omega, by omega, by omega⟩
  · have hlength : d.day ≤ 31 := by
      rcases hlong with h | h | h | h | h | h | h <;> rw [h] at hday₂ <;> exact hday₂
    rcases hlong with h | h | h | h | h | h | h <;> rw [h] at hmonth <;>
      exact ⟨by omega, by omega, by omega, by omega⟩

/-- The number of a day of the calendar is split into the parts of that day. -/
private theorem exists_isSplit_dayNumber {d : CivilDate} (h : d.Valid) :
    ∃ era year month day, IsSplit d.dayNumber era year month day ∧
      ofSplit era year month day = d := by
  obtain ⟨hday₁, hday₂, hmonth, hleap⟩ := dayOfYear_bounds h rfl rfl
  obtain ⟨-, -, hmonth₁, hmonth₂, hpos, -⟩ := h
  -- With names for the parts, what is left is arithmetic on integers.
  generalize hm : (((d.month + 9) % 12 : Nat) : Int) = month at *
  generalize hd : (153 * month + 2) / 5 + (d.day : Int) - 1 = day at *
  generalize hy : (if d.month ≤ 2 then d.year - 1 else d.year) = year
  refine ⟨year / 400, year % 400, month, day, ⟨?_, ?_, ?_, hday₁, hday₂, fun h => ?_, hmonth⟩, ?_⟩
  · simp only [dayNumber, hm, hd, hy, daysBefore]
    omega
  · omega
  · omega
  · -- the 366th day, which makes the civil year a leap year
    obtain ⟨hfeb, hleap⟩ := hleap h
    rw [if_pos (by omega)] at hy
    rw [← isLeap_add_era _ (year / 400)]
    have hsame : year % 400 + year / 400 * 400 + 1 = d.year := by omega
    rw [hsame, hleap]
  · -- The parts give the month, the year and the day back.
    have hcivil : (if month < 10 then month + 3 else month - 9) = d.month := by omega
    have hyear : (if (d.month : Int) ≤ 2 then year % 400 + year / 400 * 400 + 1
        else year % 400 + year / 400 * 400) = d.year := by
      split at hy <;> split <;> omega
    have hday : (day - (153 * month + 2) / 5 + 1).toNat = d.day := by omega
    simp only [ofSplit, hcivil, hyear, hday, Int.toNat_natCast]

/-- **A day of the calendar is found from its number.** -/
theorem ofDayNumber_dayNumber {d : CivilDate} (h : d.Valid) : ofDayNumber d.dayNumber = d := by
  obtain ⟨era, year, month, day, hsplit, heq⟩ := exists_isSplit_dayNumber h
  rw [hsplit.ofDayNumber_eq, heq]

end SqlAssembly.CivilDate
