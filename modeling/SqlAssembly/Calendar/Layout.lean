import SqlAssembly.Calendar.Moment
import SqlAssembly.Number.Numeral
import SqlAssembly.Text.Blank

/-! # Reading dates and times

A layout is a list of the items that a text is made of.  Numbers may have blanks in front of them
and fewer digits than the item is wide; a year may have a sign and then any number of digits; a
blank in a layout stands for any run of blanks.

* `Layout.Item`            an item of a layout
* `Layout.read?`           the fields that a text gives to a layout
* `Clock.read?`            the clock reading that a text gives to a layout
* `Moment.readRfc3339?`    a moment in the strict form with an offset
* `Moment.read?`           a moment in any of the accepted forms -/

namespace SqlAssembly

/-- The fields read from a text; those not read yet are nought. -/
structure ClockFields where
  year : Int
  month : Nat
  day : Nat
  hour : Nat
  minute : Nat
  second : Nat
  nanos : Nat
deriving Repr

namespace ClockFields

/-- No field read yet. -/
def empty : ClockFields := ⟨0, 0, 0, 0, 0, 0, 0⟩

/-- The day of the fields. -/
def civil (f : ClockFields) : CivilDate := ⟨f.year, f.month, f.day⟩

/-- The day, if it is one of the calendar. -/
def date? (f : ClockFields) : Option Date :=
  if f.civil.Valid then some ⟨f.civil.dayNumber⟩ else none

/-- The clock reading, if the day is one of the calendar and the time one of the day.  A sixtieth
    second is a leap second. -/
def clock? (f : ClockFields) : Option Clock := do
  let date ← f.date?
  if f.hour ≤ 23 ∧ f.minute ≤ 59 ∧ f.second ≤ 60 then
    -- A leap second is kept as a second of twice the length.
    let leap : Nat := if f.second = 60 then Clock.nanosPerSecond else 0
    let second : Nat := if f.second = 60 then 59 else f.second
    let seconds := date.day * Clock.secondsPerDay + (f.hour * 3600 + f.minute * 60 + second : Nat)
    if h : leap + f.nanos < 2000000000 then some ⟨seconds, leap + f.nanos, h⟩ else none
  else none

end ClockFields

namespace Layout

/-- An item of a layout. -/
inductive Item where
  | year
  | month
  | day
  | hour
  | minute
  | second
  | fraction
  | blank
  | mark (c : Char)
deriving DecidableEq, Repr

/-- A number of at least one and at most `width` digits at the front of a text. -/
def readNumber? (width : Nat) (cs : List Char) : Option (Nat × List Char) :=
  let digits := (cs.take width).takeWhile Numeral.isDigit
  if digits.isEmpty then none
  else some (Numeral.decimalValue digits, cs.drop digits.length)

/-- A number of exactly `width` digits at the front of a text. -/
def readExact? (width : Nat) (cs : List Char) : Option (Nat × List Char) :=
  let digits := (cs.take width).takeWhile Numeral.isDigit
  if digits.length = width then some (Numeral.decimalValue digits, cs.drop width) else none

/-- A year at the front of a text: up to four digits, or a sign and any number of them. -/
def readYear? : List Char → Option (Int × List Char)
  | '-' :: cs => (readNumber? cs.length cs).map fun p => (-(p.1 : Int), p.2)
  | '+' :: cs => (readNumber? cs.length cs).map fun p => ((p.1 : Int), p.2)
  | cs => (readNumber? 4 cs).map fun p => ((p.1 : Int), p.2)

/-- A fraction of a second behind its point, in nanoseconds.  Digits past the ninth are read and
    dropped. -/
def readFraction? (cs : List Char) : Option (Nat × List Char) :=
  let digits := cs.takeWhile Numeral.isDigit
  if digits.isEmpty then none
  else
    let kept := digits.take 9
    some (Numeral.decimalValue kept * Nat.pow 10 (9 - kept.length), cs.drop digits.length)

/-- The fields after an item, and the text behind it. -/
def readItem? (item : Item) (f : ClockFields) (cs : List Char) :
    Option (ClockFields × List Char) :=
  match item with
  | .year => (readYear? (Text.trimLeft cs)).map fun p => ({ f with year := p.1 }, p.2)
  | .month => (readNumber? 2 (Text.trimLeft cs)).map fun p => ({ f with month := p.1 }, p.2)
  | .day => (readNumber? 2 (Text.trimLeft cs)).map fun p => ({ f with day := p.1 }, p.2)
  | .hour => (readNumber? 2 (Text.trimLeft cs)).map fun p => ({ f with hour := p.1 }, p.2)
  | .minute => (readNumber? 2 (Text.trimLeft cs)).map fun p => ({ f with minute := p.1 }, p.2)
  | .second => (readNumber? 2 (Text.trimLeft cs)).map fun p => ({ f with second := p.1 }, p.2)
  | .fraction =>
    match cs with
    | '.' :: r => (readFraction? r).map fun p => ({ f with nanos := p.1 }, p.2)
    | r => some (f, r)
  | .blank => some (f, Text.trimLeft cs)
  | .mark c =>
    match cs with
    | d :: r => if c = d then some (f, r) else none
    | [] => none

/-- The fields that the whole text gives to a layout. -/
def read? : List Item → ClockFields → List Char → Option ClockFields
  | [], f, [] => some f
  | [], _, _ :: _ => none
  | item :: items, f, cs => (readItem? item f cs).bind fun p => read? items p.1 p.2

/-- Year, month and day with the mark `sep` between them. -/
def date (sep : Char) : List Item := [.year, .mark sep, .month, .mark sep, .day]

/-- Hour, minute and second with colons between them. -/
def time : List Item := [.hour, .mark ':', .minute, .mark ':', .second]

/-- The layouts of a clock reading, in the order they are tried. -/
def clocks : List (List Item) :=
  [date '-' ++ .blank :: time,
   date '-' ++ .mark 'T' :: time,
   date '-' ++ .blank :: time ++ [.fraction],
   date '/' ++ .blank :: time]

/-- The layouts of a day, in the order they are tried. -/
def dates : List (List Item) := [date '-', date '/']

/-- A clock reading with a `T` in the middle and perhaps a fraction. -/
def clockWithFraction : List Item := date '-' ++ .mark 'T' :: time ++ [.fraction]

end Layout

/-- The clock reading that a text gives to a layout. -/
def Clock.readLayout? (layout : List Layout.Item) (cs : List Char) : Option Clock :=
  (Layout.read? layout .empty cs).bind ClockFields.clock?

/-- The day that a text gives to a layout. -/
def Date.readLayout? (layout : List Layout.Item) (cs : List Char) : Option Date :=
  (Layout.read? layout .empty cs).bind ClockFields.date?

namespace Moment

/-- The minus sign that is not a hyphen. -/
def minusSign : Char := Char.ofNat 0x2212

/-- An offset that ends a text: `Z` of either case, or a sign, two digits of hours, a colon and
    two digits of minutes.  A day or more is too much. -/
def readOffset? (cs : List Char) : Option Int :=
  match cs with
  | ['Z'] | ['z'] => some 0
  | sign :: rest => do
    let negative ←
      if sign = '+' then some false
      else if sign = '-' ∨ sign = minusSign then some true
      else none
    let (hours, rest) ← Layout.readExact? 2 rest
    match rest with
    | ':' :: rest => do
      let (minutes, rest) ← Layout.readExact? 2 rest
      if hours ≤ 23 ∧ minutes ≤ 59 ∧ rest = [] then
        let seconds : Int := (hours * 3600 + minutes * 60 : Nat)
        some (if negative then -seconds else seconds)
      else none
    | _ => none
  | [] => none

/-- A field of exactly `width` digits behind which the mark `mark` stands. -/
def readMarked? (width : Nat) (mark : Char → Bool) (cs : List Char) : Option (Nat × List Char) :=
  match Layout.readExact? width cs with
  | some (n, c :: rest) => if mark c then some (n, rest) else none
  | _ => none

/-- A moment in the strict form `YYYY-MM-DDTHH:MM:SS`, perhaps with a fraction, and an offset.  A
    `t` or a blank may stand for the `T`. -/
def readRfc3339? (cs : List Char) : Option Moment := do
  let (year, cs) ← readMarked? 4 (· = '-') cs
  let (month, cs) ← readMarked? 2 (· = '-') cs
  let (day, cs) ← readMarked? 2 (fun c => c = 'T' || c = 't' || c = ' ') cs
  let (hour, cs) ← readMarked? 2 (· = ':') cs
  let (minute, cs) ← readMarked? 2 (· = ':') cs
  let (second, cs) ← Layout.readExact? 2 cs
  let (nanos, cs) ←
    match cs with
    | '.' :: r => Layout.readFraction? r
    | r => some (0, r)
  let offset ← readOffset? cs
  let clock ← ClockFields.clock? ⟨year, month, day, hour, minute, second, nanos⟩
  if h : -86400 < offset ∧ offset < 86400 then some ⟨clock, offset, h.1, h.2⟩ else none

/-- The moment that a text without blanks at its ends stands for: first in the strict form, then
    as a clock reading at universal time, then as midnight of a day. -/
def readChars? (cs : List Char) : Option Moment :=
  readRfc3339? cs <|>
    (Layout.clocks.findSome? (Clock.readLayout? · cs)).map Clock.atUtc <|>
    (Layout.dates.findSome? (Date.readLayout? · cs)).map fun d => (Clock.midnight d).atUtc

/-- The moment that a text stands for; blanks at its ends do not count. -/
def read? (s : String) : Option Moment := readChars? (Text.trimChars s.toList)

end Moment

end SqlAssembly
