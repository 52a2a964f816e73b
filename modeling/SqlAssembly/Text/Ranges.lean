/-! # Sets of characters given by ranges of code points

* `inRanges`    membership in a list of ranges, both ends included
* `inSteps`     membership in a list of ranges that skip characters
* `shiftCode`   the image of a code point that ranges shift -/

namespace SqlAssembly.Text

/-- Whether the code point lies in one of the ranges. -/
def inRanges (ranges : List (Nat × Nat)) (code : Nat) : Bool :=
  ranges.any fun r => r.1 ≤ code && code ≤ r.2

/-- Every `step`-th code point from `first` to `last`. -/
structure StepRange where
  first : Nat
  last : Nat
  step : Nat

/-- Whether the code point is one of the range. -/
def StepRange.contains (r : StepRange) (code : Nat) : Bool :=
  r.first ≤ code && code ≤ r.last && (code - r.first) % r.step = 0

/-- Whether the code point is one of a range. -/
def inSteps (ranges : List StepRange) (code : Nat) : Bool := ranges.any (·.contains code)

/-- Every `step`-th code point from `first` to `last`, and how far away the image of each lies. -/
structure ShiftRange where
  first : Nat
  last : Nat
  step : Nat
  shift : Int

/-- The code points of the range. -/
def ShiftRange.domain (r : ShiftRange) : StepRange := ⟨r.first, r.last, r.step⟩

/-- The code point shifted by the first range that it is one of, if there is such a range. -/
def shiftCode (ranges : List ShiftRange) (code : Nat) : Nat :=
  match ranges.find? (·.domain.contains code) with
  | some r => (code + r.shift).toNat
  | none => code

end SqlAssembly.Text
