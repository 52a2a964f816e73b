import SqlAssembly.Coercion.Scalar

/-! # Moments as texts

Before a value is bound as a bound of a range, the moments in it are replaced by their texts, inside
arrays at any depth.  There are two more places where a moment becomes a text: in JSON, and where a
value is shown.  All three write it the same way, so that nothing made of the value later tells
whether its moments were replaced first.

* `Value.HasMoment`               whether a value is a moment or has one in it
* `Value.roundTrip_induction`     moments, arrays and all else
* `Value.roundTrip_eq_self_iff`   the values that stay as they are
* `Value.toJson_roundTrip`, `Value.display_roundTrip`, `Value.string?_roundTrip`
                                  what is made of a value afterwards
* `Value.roundTrip_keeps_texts`   all that the replacement does -/

namespace SqlAssembly.Value

/-- Whether a value is a moment or has one in it, inside arrays at any depth. -/
inductive HasMoment : Value → Prop
  | moment (m : Moment) : HasMoment (.moment m)
  | array {items : List Value} {v : Value} (hv : v ∈ items) (h : HasMoment v) :
      HasMoment (.array items)

/-- What holds of moments, of an array if of its elements, and of all else that has no moment and
    stays as it is, holds of every value. -/
theorem roundTrip_induction {motive : Value → Prop} (moment : ∀ m, motive (.moment m))
    (array : ∀ items, (∀ v ∈ items, motive v) → motive (.array items))
    (other : ∀ v, ¬ v.HasMoment → v.roundTrip = v → motive v) (v : Value) : motive v := by
  match v with
  | .moment m => exact moment m
  | .array items => exact array items fun v hv => roundTrip_induction moment array other v
  | .null | .bool _ | .int16 _ | .int32 _ | .int64 _ | .float32 _ | .float64 _ | .text _
  | .object _ => exact other _ nofun (by simp only [roundTrip])

variable {items : List Value}

theorem roundTrip_array (items : List Value) :
    (array items).roundTrip = array (items.map roundTrip) := by
  rw [roundTrip, roundTripItems_eq_map]

theorem hasMoment_array_iff : (array items).HasMoment ↔ ∃ v ∈ items, v.HasMoment := by
  constructor
  · intro h
    cases h with
    | array hv h => exact ⟨_, hv, h⟩
  · rintro ⟨v, hv, h⟩
    exact .array hv h

/-! ## Which values change -/

/-- No moment is left. -/
private theorem not_hasMoment_roundTrip (v : Value) : ¬ v.roundTrip.HasMoment := by
  induction v using roundTrip_induction with
  | moment m =>
    rw [roundTrip]
    nofun
  | array items ih =>
    rw [roundTrip_array, hasMoment_array_iff]
    -- A moment in the new array would be in what an element was replaced by.
    rintro ⟨w, hw, hmoment⟩
    obtain ⟨v, hv, rfl⟩ := List.mem_map.1 hw
    exact ih v hv hmoment
  | other v hnone hself => rwa [hself]

/-- Without a moment there is nothing to replace. -/
private theorem roundTrip_of_not_hasMoment {v : Value} (h : ¬ v.HasMoment) : v.roundTrip = v := by
  induction v using roundTrip_induction with
  | moment m => exact absurd (.moment m) h
  | array items ih =>
    -- No element has a moment, for the array would have it too.
    have hitems : items.map roundTrip = items.map id :=
      List.map_congr_left fun v hv => ih v hv fun hmoment => h (.array hv hmoment)
    rw [roundTrip_array, hitems, List.map_id]
  | other v hnone hself => exact hself

/-- The values that stay as they are, are those without a moment. -/
theorem roundTrip_eq_self_iff {v : Value} : v.roundTrip = v ↔ ¬ v.HasMoment := by
  constructor
  · intro h
    have hnone := not_hasMoment_roundTrip v
    rwa [h] at hnone
  · exact roundTrip_of_not_hasMoment

/-! ## What is made of a value afterwards -/

theorem toJson_roundTrip (v : Value) : v.roundTrip.toJson = v.toJson := by
  induction v using roundTrip_induction with
  | moment m => rw [roundTrip, toJson, toJson]
  | array items ih =>
    rw [roundTrip_array, toJson, toJson, toJsonItems_eq_map, toJsonItems_eq_map, List.map_map]
    exact congrArg Json.array (List.map_congr_left ih)
  | other v hnone hself => rw [hself]

theorem display_roundTrip (v : Value) : v.roundTrip.display = v.display := by
  cases v using roundTrip_induction with
  | moment m => rw [roundTrip, display, display]
  | array items ih =>
    -- An array is shown as its JSON text, whatever its elements would be shown as by themselves.
    have hjson := toJson_roundTrip (array items)
    rw [roundTrip_array] at hjson ⊢
    exact congrArg Json.text hjson
  | other v hnone hself => rw [hself]

theorem string?_roundTrip (v : Value) : v.roundTrip.string? = v.string? := by
  have hdisplay := display_roundTrip v
  cases v using roundTrip_induction with
  | moment m =>
    -- The text that a moment is worth is the one that is shown.
    rw [roundTrip] at hdisplay ⊢
    exact congrArg some hdisplay
  | array items ih => rw [roundTrip_array, string?, string?]
  | other v hnone hself => rw [hself]

/-- **Replacing moments by their texts.**  No moment is left at any depth, and replacing again
    changes nothing.  The JSON value, the text that the value is shown as and the text that it is
    worth stay the same.  A value stays as it is if it has no moment, and only then. -/
theorem roundTrip_keeps_texts (v : Value) :
    ¬ v.roundTrip.HasMoment ∧ v.roundTrip.roundTrip = v.roundTrip ∧
      v.roundTrip.toJson = v.toJson ∧ v.roundTrip.display = v.display ∧
      v.roundTrip.string? = v.string? ∧ (v.roundTrip = v ↔ ¬ v.HasMoment) :=
  ⟨not_hasMoment_roundTrip v, roundTrip_of_not_hasMoment (not_hasMoment_roundTrip v),
    toJson_roundTrip v, display_roundTrip v, string?_roundTrip v, roundTrip_eq_self_iff⟩

end SqlAssembly.Value
