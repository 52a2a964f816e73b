import Mathlib.Data.List.Basic
import SqlAssembly.Value.Basic

/-! # JSON values and their values

A JSON value becomes a value of a request, and that becomes a JSON value again.  Arrays are taken
apart on this way and put together again, at any depth, while an object stays one as a whole.  What
an array is made of in the end are its leaves: everything that is no array itself.

A leaf is kept unless it is an integer that 64 bits with a sign do not hold, which becomes the
greatest that they do.  A number that is not finite would be lost, but no JSON text has one.

* `Json.leaves`              what a JSON value is made of, arrays taken apart
* `Json.mapLeaves`           a JSON value with its leaves replaced
* `Json.cutToInt64`          an integer cut to 64 bits with a sign
* `Json.toJson_ofJson_iff`   what comes back of a JSON value -/

namespace SqlAssembly.Json

open Value (ofJson toJson)

/-! ## Leaves -/

/-- Whether the value is an array. -/
def isArray : Json → Bool
  | array _ => true
  | _ => false

mutual

/-- Everything that a value is made of and that is no array, from left to right.  An object counts
    as a whole. -/
def leaves : Json → List Json
  | array items => leavesOfItems items
  | v => [v]

def leavesOfItems : List Json → List Json
  | [] => []
  | v :: vs => leaves v ++ leavesOfItems vs

end

mutual

/-- The value with `f` applied to its leaves. -/
def mapLeaves (f : Json → Json) : Json → Json
  | array items => array (mapLeavesOfItems f items)
  | v => f v

def mapLeavesOfItems (f : Json → Json) : List Json → List Json
  | [] => []
  | v :: vs => mapLeaves f v :: mapLeavesOfItems f vs

end

theorem leaves_array (items : List Json) : (array items).leaves = items.flatMap leaves := by
  rw [leaves]
  induction items with
  | nil => rw [leavesOfItems, List.flatMap_nil]
  | cons v vs ih => rw [leavesOfItems, ih, List.flatMap_cons]

theorem mapLeaves_array (f : Json → Json) (items : List Json) :
    (array items).mapLeaves f = array (items.map (mapLeaves f)) := by
  rw [mapLeaves]
  induction items with
  | nil => rw [mapLeavesOfItems, List.map_nil]
  | cons v vs ih => rw [mapLeavesOfItems, array.inj ih, List.map_cons]

private theorem leaves_of_isArray_eq_false {v : Json} (h : v.isArray = false) : v.leaves = [v] := by
  cases v with
  | array items => cases h
  | _ => rw [leaves]; exact nofun

private theorem mapLeaves_of_isArray_eq_false (f : Json → Json) {v : Json} (h : v.isArray = false) :
    v.mapLeaves f = f v := by
  cases v with
  | array items => cases h
  | _ => rw [mapLeaves]; exact nofun

/-- What holds of leaves, and of an array if of its elements, holds of every value. -/
theorem array_induction {motive : Json → Prop} (leaf : ∀ v, v.isArray = false → motive v)
    (array : ∀ items, (∀ v ∈ items, motive v) → motive (.array items)) (j : Json) : motive j := by
  match j with
  | .array items => exact array items fun v hv => array_induction leaf array v
  | .null | .bool _ | .integer _ | .real _ | .string _ | .object _ => exact leaf _ rfl

variable {v : Json}

/-- No leaf is an array. -/
private theorem isArray_of_mem_leaves (j : Json) (h : v ∈ j.leaves) : v.isArray = false := by
  induction j using array_induction with
  | leaf w hw =>
    rw [leaves_of_isArray_eq_false hw, List.mem_singleton] at h
    rw [h, hw]
  | array items ih =>
    rw [leaves_array] at h
    -- A leaf of an array is one of its elements.
    obtain ⟨w, hw, hv⟩ := List.mem_flatMap.1 h
    exact ih w hw hv

/-- Two replacements give the same if they agree on the leaves. -/
private theorem mapLeaves_eq_mapLeaves_iff {f g : Json → Json} (j : Json) :
    j.mapLeaves f = j.mapLeaves g ↔ ∀ v ∈ j.leaves, f v = g v := by
  induction j using array_induction with
  | leaf w hw =>
    rw [mapLeaves_of_isArray_eq_false f hw, mapLeaves_of_isArray_eq_false g hw,
      leaves_of_isArray_eq_false hw, List.forall_mem_singleton]
  | array items ih =>
    rw [mapLeaves_array, mapLeaves_array, leaves_array, array.injEq, List.map_inj_left]
    -- To agree on the leaves of all elements is to agree on those of the array.
    simp only [List.mem_flatMap, forall_exists_index, and_imp]
    exact (forall₂_congr ih).trans
      ⟨fun h v w hw hv => h w hw v hv, fun h w hw v hv => h v w hw hv⟩

/-- A value whose leaves are kept is kept. -/
private theorem mapLeaves_id (j : Json) : j.mapLeaves id = j := by
  induction j using array_induction with
  | leaf w hw => exact mapLeaves_of_isArray_eq_false id hw
  | array items ih => rw [mapLeaves_array, List.map_congr_left ih, List.map_id']

private theorem mapLeaves_eq_self_iff {f : Json → Json} (j : Json) :
    j.mapLeaves f = j ↔ ∀ v ∈ j.leaves, f v = v := by
  have := mapLeaves_eq_mapLeaves_iff (f := f) (g := id) j
  rwa [mapLeaves_id] at this

/-! ## What comes back -/

/-- What comes back of a value is what comes back of its leaves. -/
theorem toJson_ofJson_eq_mapLeaves (j : Json) :
    toJson (ofJson j) = j.mapLeaves fun v => toJson (ofJson v) := by
  induction j using array_induction with
  | leaf w hw => rw [mapLeaves_of_isArray_eq_false _ hw]
  | array items ih =>
    -- An array goes both ways element by element.
    rw [mapLeaves_array, ofJson, toJson, Value.ofJsonItems_eq_map, Value.toJsonItems_eq_map,
      List.map_map]
    exact congrArg array (List.map_congr_left ih)

/-- The greatest integer of 64 bits with a sign. -/
def greatestInt64 : JsonInt :=
  ⟨IntWidth.int64.hi, IntWidth.int64.lo_le_hi, IntWidth.hi_le_uint64 .int64⟩

/-- The value, with the greatest integer of 64 bits with a sign in the place of one beyond. -/
def cutToInt64 : Json → Json
  | integer n => if IntWidth.int64.hi < n.val then integer greatestInt64 else integer n
  | v => v

/-- A finite number comes back, and no other does. -/
private theorem toJson_ofJson_real_iff (x : Binary64) :
    toJson (ofJson (real x)) = real x ↔ x.isFinite = true := by
  rw [ofJson, toJson, Value.jsonReal]
  split
  · rename_i hfinite
    exact iff_of_true rfl hfinite
  · -- Any other number comes back as null.
    rename_i hinfinite
    exact iff_of_false nofun hinfinite

/-- An integer comes back cut to 64 bits with a sign. -/
private theorem toJson_ofJson_integer (n : JsonInt) :
    toJson (ofJson (integer n)) = (integer n).cutToInt64 := by
  -- JSON integers start where those of 64 bits with a sign do, so only the upper bound counts.
  have hlo : IntWidth.int64.lo ≤ n.val := n.lo_le
  rw [ofJson, toJson, cutToInt64, Value.jsonInt]
  -- The value holds the integer, or the greatest that it can hold.
  have hclamp : (IntWidth.int64.clamp n.val).val = min n.val IntWidth.int64.hi := by
    show max IntWidth.int64.lo (min n.val IntWidth.int64.hi) = _
    have := IntWidth.int64.lo_le_hi
    omega
  split
  · refine congrArg integer (Bounded.ext ?_)
    show (IntWidth.int64.clamp n.val).val = IntWidth.int64.hi
    omega
  · refine congrArg integer (Bounded.ext ?_)
    show (IntWidth.int64.clamp n.val).val = n.val
    omega

/-- A leaf comes back cut to 64 bits with a sign, unless it is a number that is not finite. -/
theorem toJson_ofJson_eq_cutToInt64_iff (h : v.isArray = false) :
    toJson (ofJson v) = v.cutToInt64 ↔ ∀ x, v = real x → x.isFinite = true := by
  cases v with
  | array items => cases h
  | integer n => exact iff_of_true (toJson_ofJson_integer n) (by rintro _ ⟨⟩)
  | real x =>
    refine (toJson_ofJson_real_iff x).trans ⟨?_, fun hfinite => hfinite x rfl⟩
    rintro hfinite _ ⟨⟩
    exact hfinite
  | null | bool | string | object =>
    -- Whatever else is no array comes back as it is.
    rw [ofJson, toJson]
    exact iff_of_true rfl (by rintro _ ⟨⟩)

theorem cutToInt64_eq_self_iff :
    v.cutToInt64 = v ↔ ∀ n, v = integer n → n.val ≤ IntWidth.int64.hi := by
  cases v with
  | integer n =>
    rw [cutToInt64]
    split
    · -- an integer beyond, which is not the greatest one itself
      rename_i hbeyond
      refine iff_of_false (fun h => ?_) fun h => Int.not_le.2 hbeyond (h n rfl)
      exact absurd (congrArg Bounded.val (integer.inj h)) (Int.ne_of_lt hbeyond)
    · rename_i hwithin
      refine iff_of_true rfl ?_
      rintro _ ⟨⟩
      exact Int.not_lt.1 hwithin
  | _ => exact iff_of_true rfl (by rintro _ ⟨⟩)

/-- A leaf comes back as it is, unless it is a number that is not finite or an integer beyond 64
    bits with a sign. -/
theorem toJson_ofJson_eq_self_iff (h : v.isArray = false) :
    toJson (ofJson v) = v ↔ (∀ x, v = real x → x.isFinite = true) ∧
      ∀ n, v = integer n → n.val ≤ IntWidth.int64.hi := by
  rw [← toJson_ofJson_eq_cutToInt64_iff h, ← cutToInt64_eq_self_iff]
  constructor
  · -- What comes back as it is, is no number that is lost, so it comes back cut as well.
    intro hself
    have hcut : toJson (ofJson v) = v.cutToInt64 := by
      refine (toJson_ofJson_eq_cutToInt64_iff h).2 ?_
      rintro x rfl
      exact (toJson_ofJson_real_iff x).1 hself
    exact ⟨hcut, hcut.symm.trans hself⟩
  · rintro ⟨hcut, hself⟩
    exact hcut.trans hself

/-- **What comes back of a JSON value.**  If its numbers are finite, all of it comes back but for
    the integers beyond 64 bits with a sign that are in no object: in their place is the greatest of
    64 bits.  So exactly the values without such integers come back as they are. -/
theorem toJson_ofJson_iff (j : Json) :
    (toJson (ofJson j) = j.mapLeaves cutToInt64 ↔ ∀ x, real x ∈ j.leaves → x.isFinite = true) ∧
    (toJson (ofJson j) = j ↔ (∀ x, real x ∈ j.leaves → x.isFinite = true) ∧
      ∀ n, integer n ∈ j.leaves → n.val ≤ IntWidth.int64.hi) := by
  have hleaf : ∀ v ∈ j.leaves, v.isArray = false := fun v hv => isArray_of_mem_leaves j hv
  constructor
  · -- Leaf by leaf, what comes back is cut exactly if no number is lost.
    have hcut : (∀ v ∈ j.leaves, toJson (ofJson v) = v.cutToInt64) ↔
        ∀ v ∈ j.leaves, ∀ x, v = real x → x.isFinite = true :=
      forall₂_congr fun v hv => toJson_ofJson_eq_cutToInt64_iff (hleaf v hv)
    rw [toJson_ofJson_eq_mapLeaves, mapLeaves_eq_mapLeaves_iff, hcut]
    exact ⟨fun h x hx => h _ hx x rfl, fun h v hv x hx => h x (hx ▸ hv)⟩
  · have hself : (∀ v ∈ j.leaves, toJson (ofJson v) = v) ↔ ∀ v ∈ j.leaves,
        (∀ x, v = real x → x.isFinite = true) ∧
          ∀ n, v = integer n → n.val ≤ IntWidth.int64.hi :=
      forall₂_congr fun v hv => toJson_ofJson_eq_self_iff (hleaf v hv)
    -- What comes back is the same value if all its leaves are the same.
    have hback : toJson (ofJson j) = j ↔ ∀ v ∈ j.leaves, toJson (ofJson v) = v := by
      rw [toJson_ofJson_eq_mapLeaves, mapLeaves_eq_self_iff]
    rw [hback, hself]
    exact ⟨fun h => ⟨fun x hx => (h _ hx).1 x rfl, fun n hn => (h _ hn).2 n rfl⟩,
      fun h v hv => ⟨fun x hx => h.1 x (hx ▸ hv), fun n hn => h.2 n (hn ▸ hv)⟩⟩

end SqlAssembly.Json
