import SqlAssembly.Proofs.CivilDays
import SqlAssembly.Proofs.LayoutText
import SqlAssembly.Value.Basic

/-! # Moments and their texts

A moment is written with as many digits of its fraction as are needed, with a sixtieth second for a
leap second, and with its offset to the minute.  All of this is read back, and the layouts without
an offset, which are tried one behind the other, do not take each other's texts.

One thing is lost.  Nothing keeps a clock reading from having its leap second behind any second of a
minute, but only behind the last one there is a number left to write it with.  Any other leap second
is written as the second after it, and read back as that.

* `Clock.fields`               the fields that a clock reading is written with
* `Clock.IsRegular`            a leap second is behind the last second of a minute
* `Clock.settled`              the reading that has any other leap second as the second after it
* `Clock.clock?_fields`        the fields of a reading are read as its settled form
* `Clock.exists_fields_eq`     each date and time is what some regular reading is written with
* `Moment.readTail?`           the fraction and the offset behind the seconds in the strict form
* `Moment.readRfc3339?_write`  the strict form reads what was written in front of that
* `Moment.read?_text`          the text of a moment is read as its settled form
* `Moment.read?_texts`         the texts of moments, clock readings and days are read back -/

namespace SqlAssembly

/-! ## The fields of a clock reading -/

/-- The year of a day is one of those that are written without a sign. -/
def Date.HasPlainYear (d : Date) : Prop :=
  0 ≤ (CivilDate.ofDayNumber d.day).year ∧ (CivilDate.ofDayNumber d.day).year ≤ 9999

instance (d : Date) : Decidable d.HasPlainYear := inferInstanceAs (Decidable (_ ∧ _))

theorem Date.HasPlainYear.valid {d : Date} (h : d.HasPlainYear) :
    (CivilDate.ofDayNumber d.day).Valid := by
  refine CivilDate.valid_ofDayNumber ?_ ?_
  · exact Int.le_trans (by decide) h.1
  · exact Int.le_trans h.2 (by decide)

namespace Clock

/-- The fields that a clock reading is written with.  A leap second counts on behind the second
    before it. -/
def fields (c : Clock) : ClockFields :=
  let civil := CivilDate.ofDayNumber c.date.day
  let leap := decide (nanosPerSecond ≤ c.nanos)
  { year := civil.year
    month := civil.month
    day := civil.day
    hour := c.secondOfDay / 3600
    minute := c.secondOfDay / 60 % 60
    second := c.secondOfDay % 60 + if leap then 1 else 0
    nanos := c.nanos - if leap then nanosPerSecond else 0 }

/-- A leap second is behind the last second of a minute. -/
def IsRegular (c : Clock) : Prop := nanosPerSecond ≤ c.nanos → c.seconds % 60 = 59

instance (c : Clock) : Decidable c.IsRegular := inferInstanceAs (Decidable (_ → _))

/-- The reading with a leap second that is not behind the last second of a minute counted as the
    second after it. -/
def settled (c : Clock) : Clock :=
  if c.IsRegular then c
  else ⟨c.seconds + 1, c.nanos - nanosPerSecond, Nat.lt_of_le_of_lt (Nat.sub_le _ _) c.nanos_lt⟩

variable {c : Clock}

theorem settled_eq_self (h : c.IsRegular) : c.settled = c := if_pos h

private theorem seconds_settled (h : ¬ c.IsRegular) : c.settled.seconds = c.seconds + 1 := by
  rw [settled, if_neg h]

theorem settled_eq_self_iff : c.settled = c ↔ c.IsRegular := by
  refine ⟨fun heq => ?_, settled_eq_self⟩
  by_cases h : c.IsRegular
  · exact h
  · -- The settled reading would be one second further on.
    have hnext := seconds_settled h
    rw [heq] at hnext
    omega

private theorem secondOfDay_lt : c.secondOfDay < 86400 := by
  unfold secondOfDay secondsPerDay
  omega

private theorem seconds_eq : c.seconds = c.date.day * 86400 + (c.secondOfDay : Nat) := by
  show c.seconds = c.seconds / 86400 * 86400 + ((c.seconds % 86400).toNat : Nat)
  omega

private theorem fields_of_lt (h : c.nanos < nanosPerSecond) :
    c.fields.second = c.secondOfDay % 60 ∧ c.fields.nanos = c.nanos := by
  simp [fields, Nat.not_le.2 h]

private theorem fields_of_leap (h : nanosPerSecond ≤ c.nanos) :
    c.fields.second = c.secondOfDay % 60 + 1 ∧ c.fields.nanos = c.nanos - nanosPerSecond := by
  simp [fields, h]

private theorem nanos_fields_lt : c.fields.nanos < 1000000000 := by
  have hnanos := c.nanos_lt
  rcases Nat.lt_or_ge c.nanos nanosPerSecond with h | h
  · rw [(fields_of_lt h).2]
    exact h
  · rw [(fields_of_leap h).2]
    unfold nanosPerSecond
    omega

/-- No fraction is written if the nanoseconds are those of whole seconds, and only then. -/
private theorem nanos_fields_eq_zero_iff : c.fields.nanos = 0 ↔ c.nanos % nanosPerSecond = 0 := by
  have hnanos := c.nanos_lt
  rcases Nat.lt_or_ge c.nanos nanosPerSecond with hlt | hleap
  · rw [(fields_of_lt hlt).2, Nat.mod_eq_of_lt hlt]
  · -- Behind a leap second there is less than another second.
    rw [(fields_of_leap hleap).2]
    unfold nanosPerSecond at *
    omega

/-- The fields are a time of the day, with a sixtieth second for a leap second. -/
private theorem time_fields_le :
    c.fields.hour ≤ 23 ∧ c.fields.minute ≤ 59 ∧ c.fields.second ≤ 60 := by
  have hsecond := secondOfDay_lt (c := c)
  refine ⟨?_, ?_, ?_⟩
  · show c.secondOfDay / 3600 ≤ 23
    omega
  · show c.secondOfDay / 60 % 60 ≤ 59
    omega
  · rcases Nat.lt_or_ge c.nanos nanosPerSecond with h | h
    · rw [(fields_of_lt h).1]
      omega
    · rw [(fields_of_leap h).1]
      omega

/-- The fields fill no more than their digits. -/
theorem isWritable_fields (h : c.date.HasPlainYear) : c.fields.IsWritable := by
  obtain ⟨-, -, -, hmonth, -, hday⟩ := h.valid
  obtain ⟨hhour, hminute, hsecond⟩ := time_fields_le (c := c)
  -- No month has more than 31 days.
  have hdays : c.fields.day < 100 := by
    refine Nat.lt_of_le_of_lt hday ?_
    unfold CivilDate.daysInMonth
    repeat' split
    all_goals omega
  exact ⟨h.1, h.2, Nat.lt_of_le_of_lt hmonth (by omega), hdays, by omega, by omega, by omega,
    nanos_fields_lt⟩

/-- A clock reading is written as its fields. -/
theorem chars_eq_write : c.chars = Layout.write Layout.clockWithFraction c.fields := by
  simp [chars, CivilDate.text, timeText, Layout.write, Layout.clockWithFraction, Layout.date,
    Layout.time, Layout.Item.write, fields]

end Clock

/-- The clock reading of fields that are a day and a time of it. -/
private theorem ClockFields.exists_clock?_eq {f : ClockFields} {d : Date} (hdate : f.date? = some d)
    (htime : f.hour ≤ 23 ∧ f.minute ≤ 59 ∧ f.second ≤ 60) (hnanos : f.nanos < 1000000000) :
    ∃ c, f.clock? = some c ∧
      c.seconds = d.day * 86400 + (f.hour * 3600 + f.minute * 60 +
        if f.second = 60 then 59 else f.second : Nat) ∧
      c.nanos = (if f.second = 60 then Clock.nanosPerSecond else 0) + f.nanos := by
  -- A fraction behind a sixtieth second is less than two seconds behind the one before it.
  have hlt : (if f.second = 60 then Clock.nanosPerSecond else 0) + f.nanos < 2000000000 := by
    unfold Clock.nanosPerSecond
    split <;> omega
  refine ⟨⟨_, _, hlt⟩, ?_, rfl, rfl⟩
  rw [clock?, hdate]
  show (if f.hour ≤ 23 ∧ f.minute ≤ 59 ∧ f.second ≤ 60 then _ else none) = _
  rw [if_pos htime]
  exact dif_pos hlt

namespace Clock

variable {c : Clock}

theorem date?_fields (h : c.date.HasPlainYear) : c.fields.date? = some c.date := by
  show (if (CivilDate.ofDayNumber c.date.day).Valid then some (Date.mk _) else none) = _
  rw [if_pos h.valid]
  exact congrArg (fun n => some (Date.mk n)) (CivilDate.dayNumber_ofDayNumber _)

/-- The fields of a clock reading are read as its settled form. -/
theorem clock?_fields (h : c.date.HasPlainYear) : c.fields.clock? = some c.settled := by
  obtain ⟨read, hread, hseconds, hnanos⟩ :=
    ClockFields.exists_clock?_eq (date?_fields h) time_fields_le nanos_fields_lt
  have heq := seconds_eq (c := c)
  have hhour : c.fields.hour = c.secondOfDay / 3600 := rfl
  have hminute : c.fields.minute = c.secondOfDay / 60 % 60 := rfl
  -- Readings are told apart by their seconds and nanoseconds.
  have hext : ∀ c' : Clock, read.seconds = c'.seconds → read.nanos = c'.nanos → read = c' := by
    intro c'
    cases read
    cases c'
    rintro rfl rfl
    rfl
  rw [hread]
  refine congrArg some ?_
  rcases Nat.lt_or_ge c.nanos nanosPerSecond with hlt | hleap
  · have hregular : c.IsRegular := fun hge => absurd hlt (Nat.not_lt.2 hge)
    -- Without a leap second, the second is none that is read as one.
    obtain ⟨hsecond, hfraction⟩ := fields_of_lt hlt
    have hne : c.fields.second ≠ 60 := by omega
    rw [if_neg hne] at hseconds hnanos
    rw [settled_eq_self hregular]
    exact hext c (by omega) (by omega)
  · obtain ⟨hsecond, hfraction⟩ := fields_of_leap hleap
    by_cases hend : c.fields.second = 60
    · have hregular : c.IsRegular := fun _ => by omega
      rw [if_pos hend] at hseconds hnanos
      rw [settled_eq_self hregular]
      exact hext c (by omega) (by omega)
    · -- The second behind is no sixtieth one, so nothing says that it is a leap second.
      have hirregular : ¬ c.IsRegular := fun hregular => by
        have hlast := hregular hleap
        omega
      rw [if_neg hend] at hseconds hnanos
      have hnext : read.seconds = c.seconds + 1 := by omega
      have hrest : read.nanos = c.nanos - nanosPerSecond := by omega
      rw [settled, if_neg hirregular]
      exact hext _ hnext hrest

/-- Each date and time is what some regular clock reading is written with. -/
theorem exists_fields_eq {g : ClockFields} (hcivil : g.civil.Valid)
    (htime : g.hour ≤ 23 ∧ g.minute ≤ 59 ∧ g.second ≤ 60) (hnanos : g.nanos < 1000000000) :
    ∃ c : Clock, c.IsRegular ∧ c.fields = g := by
  have hdate : g.date? = some ⟨g.civil.dayNumber⟩ := if_pos hcivil
  obtain ⟨c, -, hseconds, hnanos'⟩ := ClockFields.exists_clock?_eq hdate htime hnanos
  change c.seconds = g.civil.dayNumber * 86400 + _ at hseconds
  -- Without the leap second there are 59 seconds at most, so minute and hour can be told again.
  have hlast : (if g.second = 60 then 59 else g.second) ≤ 59 := by
    split <;> omega
  have hsecond : c.secondOfDay = g.hour * 3600 + g.minute * 60 +
      if g.second = 60 then 59 else g.second := by
    show (c.seconds % 86400).toNat = _
    omega
  have hday : c.date.day = g.civil.dayNumber := by
    show c.seconds / 86400 = _
    omega
  -- The day is counted from the civil date, which is found again from it.
  have hfound : c.fields.civil = g.civil := by
    show CivilDate.ofDayNumber c.date.day = _
    rw [hday, CivilDate.ofDayNumber_dayNumber hcivil]
  have hhour : c.fields.hour = g.hour := by
    show c.secondOfDay / 3600 = _
    omega
  have hminute : c.fields.minute = g.minute := by
    show c.secondOfDay / 60 % 60 = _
    omega
  have hext : ∀ {f : ClockFields}, f.civil = g.civil → f.hour = g.hour → f.minute = g.minute →
      f.second = g.second → f.nanos = g.nanos → f = g := by
    obtain ⟨⟩ := g
    rintro ⟨⟩ hsame rfl rfl rfl rfl
    cases hsame
    rfl
  by_cases hleap : g.second = 60
  · rw [if_pos hleap] at hsecond hseconds hnanos'
    -- A sixtieth second is read as a leap second behind the last one of its minute.
    obtain ⟨hcount, hfraction⟩ := fields_of_leap (c := c) (by omega)
    refine ⟨c, fun _ => ?_, hext hfound hhour hminute ?_ ?_⟩
    all_goals omega
  · rw [if_neg hleap] at hsecond hseconds hnanos'
    have hlt : c.nanos < nanosPerSecond := by
      unfold nanosPerSecond
      omega
    obtain ⟨hcount, hfraction⟩ := fields_of_lt hlt
    refine ⟨c, fun h => absurd hlt (Nat.not_lt.2 h), hext hfound hhour hminute ?_ ?_⟩
    all_goals omega

end Clock

namespace Moment

open Layout

/-! ## The strict form -/

/-- A number is in front of a mark. -/
private theorem readMarked?_of_readExact? {width n : Nat} {cs : List Char} {c : Char}
    {rest : List Char} (h : readExact? width cs = some (n, c :: rest)) (mark : Char → Bool) :
    readMarked? width mark cs = if mark c then some (n, rest) else none := by
  rw [readMarked?, h]

private theorem readMarked?_twoDigits {n : Nat} (h : n < 100) (mark : Char → Bool) (c : Char)
    (rest : List Char) :
    readMarked? 2 mark (twoDigits n ++ c :: rest) = if mark c then some (n, rest) else none :=
  readMarked?_of_readExact? (readExact?_twoDigits h _) mark

private theorem readMarked?_year {year : Int} (hfirst : 0 ≤ year) (hlast : year ≤ 9999)
    (mark : Char → Bool) (c : Char) (rest : List Char) :
    readMarked? 4 mark (yearText year ++ c :: rest) =
      if mark c then some (year.natAbs, rest) else none := by
  have hbound : year.natAbs < 10000 := by omega
  rw [yearText, if_pos ⟨hfirst, hlast⟩]
  exact readMarked?_of_readExact? (readExact?_padded (w := 3) hbound _) mark

private theorem readOffset?_twoDigits {hours minutes : Nat} (hhours : hours ≤ 23)
    (hminutes : minutes ≤ 59) : readOffset? ('-' :: (twoDigits hours ++ ':' :: twoDigits minutes)) =
        some (-((hours * 3600 + minutes * 60 : Nat) : Int)) ∧
      readOffset? ('+' :: (twoDigits hours ++ ':' :: twoDigits minutes)) =
        some ((hours * 3600 + minutes * 60 : Nat) : Int) := by
  have hfirst : readExact? 2 (twoDigits hours ++ ':' :: twoDigits minutes) =
      some (hours, ':' :: twoDigits minutes) := readExact?_twoDigits (by omega) _
  have hsecond : readExact? 2 (twoDigits minutes ++ []) = some (minutes, []) :=
    readExact?_twoDigits (by omega) []
  rw [List.append_nil] at hsecond
  constructor <;> simp [readOffset?, hfirst, hsecond, hhours, hminutes]

/-- An offset of whole minutes is read back, also a negative one of less than an hour. -/
private theorem readOffset?_offsetText {offset : Int} (hlow : -86400 < offset)
    (hhigh : offset < 86400) (hwhole : offset % 60 = 0) :
    readOffset? (offsetText offset) = some offset := by
  have hhours : (offset.natAbs + 30) / 60 / 60 ≤ 23 := by omega
  have hminutes : (offset.natAbs + 30) / 60 % 60 ≤ 59 := by omega
  -- Rounded to minutes, an offset of whole minutes is what it was.
  have hexact : (offset.natAbs + 30) / 60 / 60 * 3600 + (offset.natAbs + 30) / 60 % 60 * 60 =
      offset.natAbs := by omega
  obtain ⟨hnegative, hpositive⟩ := readOffset?_twoDigits hhours hminutes
  rw [hexact] at hnegative hpositive
  unfold offsetText
  split
  · exact hnegative.trans (congrArg some (by omega))
  · exact hpositive.trans (congrArg some (by omega))

/-- The fraction and the offset that a text behind the seconds gives in the strict form. -/
def readTail? (cs : List Char) : Option (Nat × Int) :=
  let fraction? := if cs.head?.any (· = '.') then readFraction? cs.tail else some (0, cs)
  fraction?.bind fun fraction => (readOffset? fraction.2).map fun offset => (fraction.1, offset)

/-- A fraction and an offset of whole minutes are read back. -/
private theorem readTail?_text {nanos : Nat} (hnanos : nanos < 1000000000) {offset : Int}
    (hlow : -86400 < offset) (hhigh : offset < 86400) (hwhole : offset % 60 = 0) :
    readTail? (fractionText nanos ++ offsetText offset) = some (nanos, offset) := by
  have hoffset := readOffset?_offsetText hlow hhigh hwhole
  -- A sign is neither a point nor another digit of the fraction.
  obtain ⟨sign, digits, hsign, hdigit, hpoint⟩ : ∃ sign digits, offsetText offset = sign :: digits ∧
      Numeral.isDigit sign = false ∧ sign ≠ '.' := by
    refine ⟨_, _, rfl, ?_⟩
    split <;> decide
  rw [hsign] at hoffset ⊢
  rcases fractionText_cases hnanos with ⟨hzero, hfraction⟩ | ⟨digits', hfraction, hread⟩
  · rw [hfraction, hzero]
    simp [readTail?, hpoint, hoffset]
  · rw [hfraction]
    simp [readTail?, hread sign digits hdigit, hoffset]

/-- The strict form reads the fields written in front of the fraction, with a blank for the `T`
    too. -/
theorem readRfc3339?_write {g : ClockFields} (hg : g.IsWritable) {mark : Char}
    (hmark : mark = 'T' ∨ mark = ' ') (rest : List Char) :
    (readTail? rest = none →
        readRfc3339? (write (date '-' ++ .mark mark :: time) g ++ rest) = none) ∧
      ∀ nanos (m : Moment), readTail? rest = some (nanos, m.offset) →
        readRfc3339? (write (date '-' ++ .mark mark :: time) g ++ rest) =
          (ClockFields.clock? { g with nanos := nanos }).map fun c =>
            ⟨c, m.offset, m.offset_gt, m.offset_lt⟩ := by
  -- The year has no sign, so it is what its digits are read as.
  have hyear : (g.year.natAbs : Int) = g.year := Int.natAbs_of_nonneg hg.year_nonneg
  have hmark' : (decide (mark = 'T') || decide (mark = 't') || decide (mark = ' ')) = true := by
    rcases hmark with rfl | rfl <;> rfl
  -- What the strict form makes of the fields does not depend on what stands behind them.
  have hread : readRfc3339? (write (date '-' ++ .mark mark :: time) g ++ rest) =
      (readTail? rest).bind fun tail =>
        (ClockFields.clock? { g with nanos := tail.1 }).bind fun clock =>
          if h : -86400 < tail.2 ∧ tail.2 < 86400 then some ⟨clock, tail.2, h.1, h.2⟩
          else none := by
    conv =>
      lhs
      simp [write, date, time, Item.write, readRfc3339?, hmark', hyear,
        readMarked?_year hg.year_nonneg hg.year_le, readMarked?_twoDigits hg.month_lt,
        readMarked?_twoDigits hg.day_lt, readMarked?_twoDigits hg.hour_lt,
        readMarked?_twoDigits hg.minute_lt, readExact?_twoDigits hg.second_lt]
    split
    · simp only [readTail?, List.head?_cons, Option.any_some, decide_true, if_true, List.tail_cons,
        Option.bind_assoc, Option.bind_map]
      rfl
    · rename_i hpoint
      -- What is no point begins no fraction.
      have hhead : rest.head?.any (· = '.') = false := by
        cases rest with
        | nil => rfl
        | cons c r =>
          have hne : c ≠ '.' := fun h => hpoint r (h ▸ rfl)
          simp [hne]
      simp only [readTail?, hhead, Bool.false_eq_true, if_false, Option.bind_some, Option.bind_map]
      rfl
  constructor
  · intro htail
    rw [hread, htail]
    rfl
  · intro nanos m htail
    -- The offset of a moment is in range, so it is not refused.
    have hbounds : -86400 < m.offset ∧ m.offset < 86400 := ⟨m.offset_gt, m.offset_lt⟩
    rw [hread, htail]
    simp only [Option.bind_some, dif_pos hbounds]
    exact Option.map_eq_bind.symm

/-- The strict form is not read where there is no offset, or where another mark is behind the
    year. -/
private theorem readRfc3339?_eq_none {g : ClockFields} (hg : g.IsWritable) :
    (∀ mark, mark = 'T' ∨ mark = ' ' →
        readRfc3339? (write (date '-' ++ .mark mark :: time) g) = none) ∧
      readRfc3339? (write (date '-') g) = none ∧
      ∀ rest, readRfc3339? (write (date '/') g ++ rest) = none := by
  refine ⟨fun mark hmark => ?_, ?_, fun rest => ?_⟩
  · have hread := (readRfc3339?_write hg hmark []).1 rfl
    rwa [List.append_nil] at hread
  · -- The text ends in the day, so there is no mark behind it.
    have hday : readMarked? 2 (fun c => c = 'T' || c = 't' || c = ' ') (twoDigits g.day) =
        none := by
      have hread := readExact?_twoDigits hg.day_lt []
      rw [List.append_nil] at hread
      rw [readMarked?, hread]
    simp [write, date, Item.write, readRfc3339?, readMarked?_year hg.year_nonneg hg.year_le,
      readMarked?_twoDigits hg.month_lt, hday]
  · simp [write, date, Item.write, readRfc3339?, readMarked?_year hg.year_nonneg hg.year_le]

/-! ## Texts -/

/-- The moment with the reading of its clock in settled form. -/
def settled (m : Moment) : Moment := { m with clock := m.clock.settled }

theorem settled_eq_self_iff {m : Moment} : m.settled = m ↔ m.clock.IsRegular := by
  rw [← Clock.settled_eq_self_iff]
  cases m
  simp [settled]

/-- Only a leap second behind the last second of a minute is the same instant in settled form. -/
theorem toUtc_settled_iff {m : Moment} : m.settled.toUtc = m.toUtc ↔ m.clock.IsRegular := by
  refine ⟨fun heq => ?_, fun h => by rw [settled_eq_self_iff.2 h]⟩
  by_cases h : m.clock.IsRegular
  · exact h
  · -- Both clocks are ahead of universal time by the same offset.
    have hunix : m.clock.settled.seconds - m.offset = m.clock.seconds - m.offset :=
      congrArg (·.clock.seconds) heq
    rw [Clock.seconds_settled h] at hunix
    omega

/-- A text with no blank at its ends is read as what its characters are read as. -/
private theorem read?_ofList {cs : List Char} (htrim : Text.trimChars cs = cs) :
    read? (String.ofList cs) = readChars? cs := by
  rw [read?, String.toList_ofList, htrim]

/-- The text of a moment starts with its year and ends in the minutes of its offset. -/
private theorem trimChars_text {m : Moment} (hyear : m.clock.date.HasPlainYear) :
    Text.trimChars (m.clock.chars ++ offsetText m.offset) =
      m.clock.chars ++ offsetText m.offset := by
  have hg := Clock.isWritable_fields hyear
  obtain ⟨width, n, hfirst⟩ := Item.exists_write_eq_padded (rfl : Item.year.isNumber = true) hg
  have hchars : m.clock.chars =
      Item.write m.clock.fields .year ++ write clockWithFraction.tail m.clock.fields :=
    Clock.chars_eq_write
  obtain ⟨front, minutes, hoffset⟩ : ∃ front minutes,
      offsetText m.offset = front ++ Numeral.padded 2 minutes :=
    ⟨_, _, (List.append_assoc _ [':'] _).symm⟩
  -- A number stands at both ends, whatever is between.
  have hsplit : m.clock.chars ++ offsetText m.offset =
      Numeral.padded width n ++ (write clockWithFraction.tail m.clock.fields ++ front) ++
        Numeral.padded 2 minutes := by
    rw [hchars, hfirst, hoffset]
    simp only [List.append_assoc]
  rw [hsplit]
  exact Text.trimChars_padded width n _ 2 minutes

/-- The text of a moment is in the strict form. -/
theorem readRfc3339?_text {m : Moment} (hyear : m.clock.date.HasPlainYear)
    (hwhole : m.offset % 60 = 0) : readRfc3339? m.text.toList = some m.settled := by
  have hg := Clock.isWritable_fields hyear
  have hchars : m.clock.chars = write (date '-' ++ .mark 'T' :: time) m.clock.fields ++
      fractionText m.clock.fields.nanos := by
    rw [Clock.chars_eq_write]
    simp [write, clockWithFraction, Item.write]
  -- The fraction and the offset give back what the fields lack.
  have htail := readTail?_text hg.nanos_lt m.offset_gt m.offset_lt hwhole
  rw [text, String.toList_ofList, hchars, List.append_assoc,
    (readRfc3339?_write hg (.inl rfl) _).2 _ m htail]
  exact congrArg (Option.map _) (Clock.clock?_fields hyear)

/-- The text of a moment is read as its settled form. -/
theorem read?_text {m : Moment} (hyear : m.clock.date.HasPlainYear) (hwhole : m.offset % 60 = 0) :
    read? m.text = some m.settled := by
  have hstrict := readRfc3339?_text hyear hwhole
  rw [text, String.toList_ofList] at hstrict
  -- The strict form is tried first, so that what it reads is what is read.
  rw [text, read?_ofList (trimChars_text hyear), readChars?, hstrict]
  rfl

/-- A text that no form in front of a layout takes is read by that layout. -/
private theorem readChars?_of_clock {cs : List Char} (hstrict : readRfc3339? cs = none) {c : Clock}
    (hclock : clocks.findSome? (Clock.readLayout? · cs) = some c) :
    readChars? cs = some c.atUtc := by
  rw [readChars?, hstrict, hclock]
  rfl

private theorem readChars?_of_date {cs : List Char} (hstrict : readRfc3339? cs = none)
    (hclock : clocks.findSome? (Clock.readLayout? · cs) = none) {d : Date}
    (hdate : dates.findSome? (Date.readLayout? · cs) = some d) :
    readChars? cs = some (Clock.midnight d).atUtc := by
  rw [readChars?, hstrict, hclock, hdate]
  rfl

/-- The layouts of a clock reading that have neither an offset nor a fraction. -/
def wholeClocks : List (List Item) :=
  [date '-' ++ .blank :: time, date '-' ++ .mark 'T' :: time, date '/' ++ .blank :: time]

private theorem mem_wholeClocks {layout : List Item} (h : layout ∈ wholeClocks) :
    layout = date '-' ++ .blank :: time ∨ layout = date '-' ++ .mark 'T' :: time ∨
      layout = date '/' ++ .blank :: time := by
  simpa [wholeClocks] using h

/-- A layout of a clock reading reads what was written to it, and no layout tried before it takes
    that. -/
private theorem findSome?_clocks {g : ClockFields} (hg : g.IsWritable) (hnanos : g.nanos = 0)
    {c : Clock} (hclock : g.clock? = some c) {layout : List Item} (hlayout : layout ∈ wholeClocks) :
    clocks.findSome? (Clock.readLayout? · (write layout g)) = some c := by
  have hfill : { g with nanos := 0 } = g := by rw [← hnanos]
  -- The layout itself gives the reading, as it has all fields but the fraction.
  have hself : ∀ layout, isPlain layout = true → fill layout g .empty = { g with nanos := 0 } →
      Clock.readLayout? layout (write layout g) = some c := by
    intro layout hplain heq
    rw [Clock.readLayout?, read?_write hplain hg, heq, hfill]
    exact hclock
  rcases mem_wholeClocks hlayout with rfl | rfl | rfl
  · have hfirst := hself (date '-' ++ .blank :: time) rfl rfl
    simp only [clocks, List.findSome?_cons, hfirst]
  · -- The layout with a blank is tried before the one with a `T`.
    have hblank : Clock.readLayout? (date '-' ++ .blank :: time)
        (write (date '-' ++ .mark 'T' :: time) g) = none := by
      rw [Clock.readLayout?, time, read?_blank_of_mark hg]
      rfl
    have hmark := hself (date '-' ++ .mark 'T' :: time) rfl rfl
    simp only [clocks, List.findSome?_cons, hblank, hmark]
  · -- All layouts with hyphens are tried before the one with slashes.
    have hhyphen : ∀ behind, Clock.readLayout? (date '-' ++ behind)
        (write (date '/' ++ .blank :: time) g) = none := by
      intro behind
      have hne : '-' ≠ '/' := by decide
      rw [Clock.readLayout?, write, List.flatMap_append]
      exact congrArg (·.bind ClockFields.clock?) (read?_date_ne hne hg behind _ _)
    have hslash := hself (date '/' ++ .blank :: time) rfl rfl
    simp only [clocks, List.findSome?_cons, List.append_assoc, hhyphen, hslash]

/-- The strict form has an offset behind the seconds, and hyphens between the fields of a day. -/
private theorem readRfc3339?_wholeClocks {g : ClockFields} (hg : g.IsWritable) {layout : List Item}
    (hlayout : layout ∈ wholeClocks) : readRfc3339? (write layout g) = none := by
  obtain ⟨hmark, -, hslash⟩ := readRfc3339?_eq_none hg
  rcases mem_wholeClocks hlayout with rfl | rfl | rfl
  · exact hmark ' ' (.inr rfl)
  · exact hmark 'T' (.inl rfl)
  · rw [write, List.flatMap_append]
    exact hslash _

/-- The text of a clock reading with no fraction is read as its settled form in each of the layouts
    without an offset. -/
theorem read?_clockText {c : Clock} (hyear : c.date.HasPlainYear)
    (hwhole : c.nanos % Clock.nanosPerSecond = 0) {layout : List Item}
    (hlayout : layout ∈ wholeClocks) :
    read? (String.ofList (write layout c.fields)) = some c.settled.atUtc := by
  have hg := Clock.isWritable_fields hyear
  have hfind := findSome?_clocks hg (Clock.nanos_fields_eq_zero_iff.2 hwhole)
    (Clock.clock?_fields hyear) hlayout
  -- The layouts begin with the year and end in the seconds, so there is nothing to trim.
  have htrim : Text.trimChars (write layout c.fields) = write layout c.fields := by
    have hends : ∀ sep item, Text.trimChars (write (date sep ++ item :: time) c.fields) =
        write (date sep ++ item :: time) c.fields := fun sep item =>
      trimChars_write (rfl : Item.year.isNumber = true) (rfl : Item.second.isNumber = true) hg
        [.mark sep, .month, .mark sep, .day, item, .hour, .mark ':', .minute, .mark ':']
    rcases mem_wholeClocks hlayout with rfl | rfl | rfl
    all_goals exact hends _ _
  rw [read?_ofList htrim, readChars?_of_clock (readRfc3339?_wholeClocks hg hlayout) hfind]

/-- A date and time that is written in a layout without an offset is read as the reading with those
    fields. -/
theorem exists_read?_fieldsText {g : ClockFields} (hcivil : g.civil.Valid)
    (hyear : 0 ≤ g.year ∧ g.year ≤ 9999) (htime : g.hour ≤ 23 ∧ g.minute ≤ 59 ∧ g.second ≤ 60)
    (hnanos : g.nanos = 0) :
    ∃ c : Clock, c.fields = g ∧ c.IsRegular ∧ ∀ layout ∈ wholeClocks,
      read? (String.ofList (write layout g)) = some c.atUtc := by
  obtain ⟨c, hregular, rfl⟩ := Clock.exists_fields_eq hcivil htime (hnanos ▸ by decide)
  have hwhole : c.nanos % Clock.nanosPerSecond = 0 := Clock.nanos_fields_eq_zero_iff.1 hnanos
  refine ⟨c, rfl, hregular, fun layout hlayout => ?_⟩
  rw [read?_clockText hyear hwhole hlayout, Clock.settled_eq_self hregular]

/-- No layout of a clock reading takes the text of a day. -/
private theorem findSome?_clocks_write_date {g : ClockFields} (hg : g.IsWritable) (sep : Char) :
    clocks.findSome? (Clock.readLayout? · (write (date sep) g)) = none := by
  -- Behind the day the text is at its end, and each layout wants more.
  have hnone : ∀ sep' behind, (∀ f, Layout.read? behind f [] = none) →
      Clock.readLayout? (date sep' ++ behind) (write (date sep) g) = none := by
    intro sep' behind hbehind
    rw [Clock.readLayout?, read?_write_date hbehind hg]
    rfl
  have hblank : ∀ sep' more, Clock.readLayout? (date sep' ++ .blank :: .hour :: more)
      (write (date sep) g) = none := fun sep' more => hnone sep' _ fun _ => rfl
  have hmark := hnone '-' (.mark 'T' :: time) fun _ => rfl
  rw [List.findSome?_eq_none_iff]
  intro layout hlayout
  simp only [clocks, List.mem_cons, List.not_mem_nil, or_false] at hlayout
  rcases hlayout with rfl | rfl | rfl | rfl
  · exact hblank '-' _
  · exact hmark
  · exact hblank '-' _
  · exact hblank '/' _

/-- A layout of a day reads what was written to it, and the layout tried before it does not take
    that. -/
private theorem findSome?_dates {g : ClockFields} (hg : g.IsWritable) {d : Date}
    (hdate : g.date? = some d) {layout : List Item} (hlayout : layout ∈ dates) :
    dates.findSome? (Date.readLayout? · (write layout g)) = some d := by
  have hself : ∀ sep, Date.readLayout? (date sep) (write (date sep) g) = some d := by
    intro sep
    rw [Date.readLayout?, read?_write rfl hg]
    exact hdate
  simp only [dates, List.mem_cons, List.not_mem_nil, or_false] at hlayout
  rcases hlayout with rfl | rfl
  · simp only [dates, List.findSome?_cons, hself]
  · have hne : '-' ≠ '/' := by decide
    -- The layout with hyphens is tried first, and does not take slashes.
    have hhyphen : Date.readLayout? (date '-') (write (date '/') g) = none := by
      have hread := read?_date_ne hne hg [] .empty []
      rw [List.append_nil, List.append_nil] at hread
      rw [Date.readLayout?, hread]
      rfl
    simp only [dates, List.findSome?_cons, hhyphen, hself]

/-- The text of a day is read as midnight of it in each of the layouts of a day. -/
theorem read?_dateText {d : Date} (hyear : d.HasPlainYear) {layout : List Item}
    (hlayout : layout ∈ dates) :
    read? (String.ofList (write layout (Clock.midnight d).fields)) =
      some (Clock.midnight d).atUtc := by
  have hyear' : (Clock.midnight d).date.HasPlainYear := (Clock.date_midnight d).symm ▸ hyear
  have hg := Clock.isWritable_fields hyear'
  have hdate : (Clock.midnight d).fields.date? = some d := by
    rw [Clock.date?_fields hyear', Clock.date_midnight]
  have hfind := findSome?_dates hg hdate hlayout
  -- The strict form and the layouts of a clock reading are tried in front of those of a day.
  obtain ⟨-, hhyphen, hslash⟩ := readRfc3339?_eq_none hg
  obtain ⟨sep, rfl, hstrict⟩ : ∃ sep, layout = date sep ∧
      readRfc3339? (write (date sep) (Clock.midnight d).fields) = none := by
    simp only [dates, List.mem_cons, List.not_mem_nil, or_false] at hlayout
    rcases hlayout with rfl | rfl
    · exact ⟨'-', rfl, hhyphen⟩
    · have hread := hslash []
      rw [List.append_nil] at hread
      exact ⟨'/', rfl, hread⟩
  -- A day begins and ends in a number.
  have htrim : Text.trimChars (write (date sep) (Clock.midnight d).fields) =
      write (date sep) (Clock.midnight d).fields :=
    trimChars_write (rfl : Item.year.isNumber = true) (rfl : Item.day.isNumber = true) hg
      [.mark sep, .month, .mark sep]
  rw [read?_ofList htrim,
    readChars?_of_date hstrict (findSome?_clocks_write_date hg sep) hfind]

/-- **Texts of dates and times are read back.**  The text that a moment becomes, on its way back to
    a request as in display and in JSON, is read as that moment, if a leap second of it is behind
    the last second of a minute; only then, as any other is read as the second after it.  The same
    goes for a clock reading without a fraction, at universal time and in every layout.  Each date
    and time is read as the reading that it is the fields of, and each day as its midnight. -/
theorem read?_texts :
    (∀ m : Moment, m.clock.date.HasPlainYear → m.offset % 60 = 0 →
      (Value.moment m).roundTrip = .text m.text ∧ (Value.moment m).display = m.text ∧
        (Value.moment m).toJson = .string m.text ∧ read? m.text = some m.settled ∧
        (read? m.text = some m ↔ m.clock.IsRegular)) ∧
    (∀ c : Clock, c.date.HasPlainYear → c.nanos % Clock.nanosPerSecond = 0 →
      ∀ layout ∈ [date '-' ++ .blank :: time, date '-' ++ .mark 'T' :: time,
          date '/' ++ .blank :: time],
        read? (String.ofList (write layout c.fields)) = some c.settled.atUtc ∧
        (read? (String.ofList (write layout c.fields)) = some c.atUtc ↔ c.IsRegular)) ∧
    (∀ g : ClockFields, g.civil.Valid → 0 ≤ g.year ∧ g.year ≤ 9999 →
      g.hour ≤ 23 ∧ g.minute ≤ 59 ∧ g.second ≤ 60 → g.nanos = 0 →
      ∃ c : Clock, c.fields = g ∧ c.IsRegular ∧
        ∀ layout ∈ [date '-' ++ .blank :: time, date '-' ++ .mark 'T' :: time,
            date '/' ++ .blank :: time],
          read? (String.ofList (write layout g)) = some c.atUtc) ∧
    (∀ d : Date, d.HasPlainYear → ∀ layout ∈ [date '-', date '/'],
      read? (String.ofList (write layout (Clock.midnight d).fields)) =
        some (Clock.midnight d).atUtc) := by
  refine ⟨fun m hyear hwhole => ⟨?_, rfl, ?_, read?_text hyear hwhole, ?_⟩,
    fun c hyear hwhole layout hlayout => ⟨read?_clockText hyear hwhole hlayout, ?_⟩,
    fun g hcivil hyear htime hnanos => exists_read?_fieldsText hcivil hyear htime hnanos,
    fun d hyear layout hlayout => read?_dateText hyear hlayout⟩
  · rw [Value.roundTrip]
  · rw [Value.toJson]
  · rw [read?_text hyear hwhole, Option.some_inj, settled_eq_self_iff]
  · rw [read?_clockText hyear hwhole hlayout, Option.some_inj, ← Clock.settled_eq_self_iff]
    simp [Clock.atUtc]

-- Half a second into a leap second, on a clock half an hour behind universal time.
example : read? "2016-12-31T23:59:60.500-00:30" =
    some ⟨⟨1483228799, 1500000000, by decide⟩, -1800, by decide, by decide⟩ := by decide

/-- The leap second at the end of 2016 and its half, as a clock reads it that is half an hour behind
    universal time. -/
def leapSecond : Moment := ⟨⟨1483228799, 1500000000, by decide⟩, -1800, by decide, by decide⟩

/-- The beginning of that leap second on a clock at universal time. -/
def leapReading : Clock := ⟨1483228799, 1000000000, by decide⟩

/-- The fields of a leap second on a leap day. -/
def leapFields : ClockFields := ⟨2024, 2, 29, 23, 59, 60, 0⟩

/-- Leap seconds are read back behind the last second of a minute, and so is the first day of
    all. -/
theorem read?_texts_leapSecond :
    (leapSecond.clock.date.HasPlainYear ∧ leapSecond.offset % 60 = 0 ∧
      (Value.moment leapSecond).roundTrip = .text leapSecond.text ∧
      read? leapSecond.text = some leapSecond) ∧
    (leapReading.date.HasPlainYear ∧ leapReading.nanos % Clock.nanosPerSecond = 0 ∧
      read? (String.ofList (write (date '/' ++ .blank :: time) leapReading.fields)) =
        some leapReading.atUtc) ∧
    (leapFields.civil.Valid ∧ ∃ c : Clock, c.fields = leapFields ∧
      read? "2024-02-29 23:59:60" = some c.atUtc) ∧
    (Date.HasPlainYear ⟨-719528⟩ ∧
      read? (String.ofList (write (date '/') (Clock.midnight ⟨-719528⟩).fields)) =
        some (Clock.midnight ⟨-719528⟩).atUtc) := by
  obtain ⟨hmoment, hclock, hfields, hdate⟩ := read?_texts
  refine ⟨⟨by decide, rfl, ?_⟩, ⟨by decide, rfl, ?_⟩, ⟨by decide, ?_⟩, by decide, ?_⟩
  · obtain ⟨htext, -, -, -, hread⟩ := hmoment leapSecond (by decide) rfl
    exact ⟨htext, hread.2 (by decide)⟩
  · have hread := hclock leapReading (by decide) rfl (date '/' ++ .blank :: time) (by simp)
    exact hread.2.2 (by decide)
  · obtain ⟨c, hc, -, hread⟩ := hfields leapFields (by decide) (by decide) (by decide) rfl
    have htext : String.ofList (write (date '-' ++ .blank :: time) leapFields) =
        "2024-02-29 23:59:60" := by decide +kernel
    exact ⟨c, hc, htext ▸ hread (date '-' ++ .blank :: time) (by simp)⟩
  · exact hdate ⟨-719528⟩ (by decide) (date '/') (by simp)

/-- A leap second behind noon, and the half of it. -/
def noonLeapSecond : Moment := Clock.atUtc ⟨43200, 1500000000, by decide⟩

/-- Its text is that of the second after it, which is another instant: by its seconds since 1970 it
    is read as one second too late. -/
theorem read?_text_noonLeapSecond :
    noonLeapSecond.clock.date.HasPlainYear ∧ noonLeapSecond.offset % 60 = 0 ∧
      (Value.moment noonLeapSecond).roundTrip = .text "1970-01-01T12:00:01.500+00:00" ∧
      ∃ read, read? "1970-01-01T12:00:01.500+00:00" = some read ∧ read ≠ noonLeapSecond ∧
        read.toUtc ≠ noonLeapSecond.toUtc ∧ read.unix = 43201 ∧ noonLeapSecond.unix = 43200 := by
  refine ⟨by decide, rfl, ?_, ⟨⟨43201, 500000000, by decide⟩, 0, by decide, by decide⟩, by decide,
    by decide, by decide, rfl, rfl⟩
  -- The leap second is written as the second after it.
  have htext : noonLeapSecond.text = "1970-01-01T12:00:01.500+00:00" := by decide +kernel
  rw [Value.roundTrip, htext]

end Moment

end SqlAssembly
