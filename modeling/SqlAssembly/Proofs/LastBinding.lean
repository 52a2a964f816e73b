import Mathlib.Data.List.Induction
import SqlAssembly.Params

/-! # Which binding of a name counts

A parameter set grows in two ways: `Params.add` writes into the first entry of a name, and
`Params.merge` puts entries behind all others.  `Params.get?` reads the last entry.  So a value
that is added to a name with several entries is written where nobody reads it.

* `Params.Write`, `Params.writeAll`   the calls that bind names, and a run of them
* `Params.history`                    how a name got its values, in order
* `Params.entryCount`                 how many entries that makes
* `Params.IsOvertaken`                whether the value read is an older one
* `get?_writeAll_eq_lastValue?_iff`   the last value written is read unless it is overtaken
* `Params.valuesAdded`                the values that are added to a name
* `Params.IsSingle.get?_addAll_eq_getLast?`   without objects, the last of them is read -/

namespace SqlAssembly.Params

/-- A call that binds names. -/
inductive Write where
  | add (name : String) (value : Value)
  | merge (fields : Json.Fields)

/-- The effect of a call. -/
def write (p : Params) : Write → Params
  | .add name value => p.add name value
  | .merge fields => p.merge fields

/-- The effect of calls one after the other. -/
def writeAll (p : Params) (ws : List Write) : Params := ws.foldl write p

/-- How a name got a value. -/
inductive Binding where
  | added (value : Value)
  | merged (value : Value)

namespace Binding

/-- The value bound. -/
def value : Binding → Value
  | added v => v
  | merged v => v

/-- The value, if it came with an object. -/
def merged? : Binding → Option Value
  | added _ => none
  | merged v => some v

/-- Whether the value was added on its own. -/
def isAdded : Binding → Bool
  | added _ => true
  | merged _ => false

end Binding

/-- The bindings of a name that a call makes, in order.  Names are compared as they are kept. -/
def Write.bindingsOf (name : String) : Write → List Binding
  | .add n v => if Placeholder.clean n = Placeholder.clean name then [.added v] else []
  | .merge fields =>
    (fields.filter fun f => Placeholder.clean f.1 = Placeholder.clean name).map fun f =>
      .merged (.ofJson f.2)

/-- The bindings of a name that calls make, in order. -/
def history (name : String) (ws : List Write) : List Binding :=
  ws.flatMap (Write.bindingsOf name)

/-- The value of the last binding. -/
def lastValue? (h : List Binding) : Option Value := h.getLast?.map Binding.value

/-- The values bound by objects. -/
def mergedValues (h : List Binding) : List Value := h.filterMap Binding.merged?

/-- The value of the last binding by an object. -/
def lastMerged? (h : List Binding) : Option Value := (mergedValues h).getLast?

/-- How many entries bindings of one name make: one for each that came with an object, and one
    more if the name was added before any of these. -/
def entryCount (h : List Binding) : Nat :=
  (mergedValues h).length + if h.head?.any Binding.isAdded then 1 else 0

/-- Whether a value that came with an object hides the one written last. -/
def IsOvertaken (h : List Binding) : Prop := 1 < entryCount h ∧ lastMerged? h ≠ lastValue? h

/-! ## The entries of one name -/

/-- The values of the entries of a name, in order. -/
def valuesOf (name : String) (entries : List (String × Value)) : List Value :=
  (entries.filter fun e => e.1 = name).map (·.2)

/-- What a binding does to the values of its name. -/
def place : List Value → Binding → List Value
  | _ :: vs, .added v => v :: vs
  | [], .added v => [v]
  | vs, .merged v => vs ++ [v]

/-- Reading a name gives the last of its values. -/
theorem get?_eq_getLast? (p : Params) (name : String) :
    p.get? name = (valuesOf (Placeholder.clean name) p.entries).getLast? := by
  rw [get?, valuesOf, List.getLast?_map, ← List.head?_reverse, ← List.filter_reverse,
    List.head?_filter]

private theorem valuesOf_assign_self (name : String) (value : Value)
    (entries : List (String × Value)) : valuesOf name (assign name value entries) =
      place (valuesOf name entries) (.added value) := by
  induction entries with
  | nil => simp [assign, valuesOf, place]
  | cons e rest ih =>
    obtain ⟨n, v⟩ := e
    -- The value goes to the first entry of the name, in front of which none counts.
    by_cases hn : n = name
    · simp [assign, valuesOf, hn, place]
    · have hskip : valuesOf name ((n, v) :: rest) = valuesOf name rest := by
        simp [valuesOf, hn]
      rw [hskip, ← ih, assign, if_neg hn]
      simp [valuesOf, hn]

private theorem valuesOf_assign_of_ne {name other : String} (h : other ≠ name) (value : Value)
    (entries : List (String × Value)) :
    valuesOf name (assign other value entries) = valuesOf name entries := by
  induction entries with
  | nil => simp [assign, valuesOf, h]
  | cons e rest ih =>
    obtain ⟨n, v⟩ := e
    rw [assign]
    split
    · -- the entry of the other name, which does not count before or after
      rename_i hn
      simp [valuesOf, hn, h]
    · simp only [valuesOf, List.filter_cons] at ih ⊢
      split
      · rw [List.map_cons, List.map_cons, ih]
      · exact ih

/-- Fields put behind the entries append their values. -/
private theorem foldl_place_merged (vs : List Value) (ms : List Value) :
    (ms.map Binding.merged).foldl place vs = vs ++ ms := by
  induction ms generalizing vs with
  | nil => simp
  | cons m ms ih => rw [List.map_cons, List.foldl_cons, ih, place, List.append_assoc]; rfl

/-- A call does to the values of a name what its bindings of that name do. -/
private theorem valuesOf_write (p : Params) (w : Write) (name : String) :
    valuesOf (Placeholder.clean name) (p.write w).entries =
      (w.bindingsOf name).foldl place (valuesOf (Placeholder.clean name) p.entries) := by
  cases w with
  | add n v =>
    simp only [write, add, Write.bindingsOf]
    -- A value counts for the name that it is added to, as that is kept.
    by_cases hn : Placeholder.clean n = Placeholder.clean name
    · rw [if_pos hn, hn, valuesOf_assign_self, List.foldl_cons, List.foldl_nil]
    · rw [if_neg hn, valuesOf_assign_of_ne hn, List.foldl_nil]
  | merge fields =>
    simp only [write, merge, Write.bindingsOf]
    -- Of an object the fields of this name come behind its values, in their order.
    have hmap : ∀ fs : Json.Fields,
        (fs.map fun f => Binding.merged (.ofJson f.2)) =
          (fs.map fun f => Value.ofJson f.2).map .merged := by
      intro fs
      rw [List.map_map]
      rfl
    rw [hmap, foldl_place_merged, valuesOf, List.filter_append, List.map_append,
      List.filter_map, List.map_map]
    rfl

theorem valuesOf_writeAll (p : Params) (ws : List Write) (name : String) :
    valuesOf (Placeholder.clean name) (p.writeAll ws).entries =
      (history name ws).foldl place (valuesOf (Placeholder.clean name) p.entries) := by
  -- The first write is done by the time of the others, on any parameters.
  induction ws generalizing p with
  | nil => rfl
  | cons w ws ih =>
    rw [writeAll, List.foldl_cons, ← writeAll, ih, valuesOf_write, ← List.foldl_append]
    rfl

/-! ## What a history leaves -/

private theorem mergedValues_append_merged (h : List Binding) (v : Value) :
    mergedValues (h ++ [.merged v]) = mergedValues h ++ [v] := by
  rw [mergedValues, List.filterMap_append]
  rfl

private theorem mergedValues_append_added (h : List Binding) (v : Value) :
    mergedValues (h ++ [.added v]) = mergedValues h := by
  rw [mergedValues, List.filterMap_append]
  exact List.append_nil _

private theorem entryCount_append_merged (h : List Binding) (v : Value) :
    entryCount (h ++ [.merged v]) = entryCount h + 1 := by
  rw [entryCount, entryCount, mergedValues_append_merged, List.length_append]
  cases h with
  | nil => rfl
  | cons b h =>
    rw [List.cons_append, List.head?_cons, List.head?_cons, List.length_singleton]
    omega

private theorem entryCount_append_added {h : List Binding} (hne : h ≠ []) (v : Value) :
    entryCount (h ++ [.added v]) = entryCount h := by
  obtain ⟨b, h, rfl⟩ := List.exists_cons_of_ne_nil hne
  rw [entryCount, mergedValues_append_added]
  rfl

/-- A name that was bound has an entry. -/
private theorem entryCount_pos {h : List Binding} (hne : h ≠ []) : 0 < entryCount h := by
  obtain ⟨b, h, rfl⟩ := List.exists_cons_of_ne_nil hne
  cases b with
  | added v => exact Nat.succ_pos _
  | merged v => exact Nat.lt_of_lt_of_le (Nat.succ_pos _) (Nat.le_add_right _ _)

theorem lastValue?_append (h : List Binding) (b : Binding) :
    lastValue? (h ++ [b]) = some b.value := by
  rw [lastValue?, List.getLast?_concat]
  rfl

/-- The values that a history leaves: how many there are, and which one is read. -/
private theorem foldl_place_spec (h : List Binding) :
    (h.foldl place []).length = entryCount h ∧
      (h.foldl place []).getLast? =
        if entryCount h ≤ 1 then lastValue? h else lastMerged? h := by
  -- By the last binding: from an object it is a value more, and else the first one changes.
  induction h using List.reverseRecOn with
  | nil => exact ⟨rfl, rfl⟩
  | append_singleton h b ih =>
    obtain ⟨hlen, hlast⟩ := ih
    rw [List.foldl_append, List.foldl_cons, List.foldl_nil, lastValue?_append]
    cases b with
    | merged v =>
      rw [entryCount_append_merged]
      -- A value from an object goes to the end, where it is read.
      have hplace : place (h.foldl place []) (.merged v) = h.foldl place [] ++ [v] := by
        cases h.foldl place [] <;> rfl
      have hmerged : lastMerged? (h ++ [.merged v]) = some v := by
        rw [lastMerged?, mergedValues_append_merged, List.getLast?_concat]
      rw [hplace, hmerged, List.length_append, hlen, List.getLast?_concat]
      exact ⟨rfl, by split <;> rfl⟩
    | added v =>
      -- The value goes into the first place, which is the last one only if there is no other.
      by_cases hne : h = []
      · subst hne
        exact ⟨rfl, rfl⟩
      · have hpos := entryCount_pos hne
        rw [lastMerged?, mergedValues_append_added, ← lastMerged?, entryCount_append_added hne]
        match hvs : h.foldl place [] with
        | [] =>
          rw [hvs, List.length_nil] at hlen
          omega
        | [x] =>
          rw [hvs, List.length_singleton] at hlen
          rw [← hlen]
          exact ⟨rfl, rfl⟩
        | x :: y :: vs =>
          rw [hvs] at hlen hlast
          have hmany : ¬ entryCount h ≤ 1 := by
            rw [← hlen, List.length_cons, List.length_cons]
            omega
          rw [if_neg hmany] at hlast ⊢
          refine ⟨hlen, ?_⟩
          rw [← hlast, place, List.getLast?_cons_cons, List.getLast?_cons_cons]

/-- What is read after a run: the last value written, or the last one that came with an object if
    the name has several entries. -/
theorem get?_writeAll (ws : List Write) (name : String) :
    (empty.writeAll ws).get? name =
      if entryCount (history name ws) ≤ 1 then lastValue? (history name ws)
      else lastMerged? (history name ws) := by
  rw [get?_eq_getLast?, valuesOf_writeAll]
  exact (foldl_place_spec (history name ws)).2

/-- Adding a value once more does not make a second entry. -/
private theorem entryCount_append_added_le_one (h : List Binding) (v : Value) :
    entryCount (h ++ [.added v]) ≤ 1 ↔ entryCount h ≤ 1 := by
  by_cases hne : h = []
  · subst hne
    exact ⟨fun _ => Nat.zero_le 1, fun _ => Nat.le_refl 1⟩
  · rw [entryCount_append_added hne]

private theorem history_append_add (name : String) (ws : List Write) (v : Value) :
    history name (ws ++ [.add name v]) = history name ws ++ [.added v] := by
  simp [history, Write.bindingsOf]

/-- What is read of a name right after a value was added to it. -/
private theorem get?_add_writeAll (ws : List Write) (name : String) (value : Value) :
    ((empty.writeAll ws).add name value).get? name =
      if entryCount (history name ws) ≤ 1 then some value
      else lastMerged? (history name ws) := by
  -- To add a value is to make one more write.
  have hrun : (empty.writeAll ws).add name value =
      empty.writeAll (ws ++ [.add name value]) := by
    rw [writeAll, writeAll, List.foldl_append]
    rfl
  rw [hrun, get?_writeAll, history_append_add, lastValue?_append, lastMerged?,
    mergedValues_append_added, ← lastMerged?]
  simp only [entryCount_append_added_le_one]
  rfl

/-- After any run of calls, reading a name gives the value that was written last exactly if that
    is not overtaken, and else the last value that came with an object.  So a value just added is
    read exactly if the name has at most one entry or the last object gave it the same value. -/
theorem get?_writeAll_eq_lastValue?_iff (ws : List Write) (name : String) :
    ((empty.writeAll ws).get? name = lastValue? (history name ws) ↔
        ¬ IsOvertaken (history name ws)) ∧
      (IsOvertaken (history name ws) →
        (empty.writeAll ws).get? name = lastMerged? (history name ws)) ∧
      ∀ value : Value,
        ((empty.writeAll ws).add name value).get? name = some value ↔
          entryCount (history name ws) ≤ 1 ∨ lastMerged? (history name ws) = some value := by
  refine ⟨?_, ?_, ?_⟩
  · rw [get?_writeAll, IsOvertaken]
    split
    · rename_i hle
      exact ⟨fun _ h => absurd h.1 (Nat.not_lt.2 hle), fun _ => rfl⟩
    · rename_i hgt
      constructor
      · intro h hover
        exact hover.2 h
      · intro h
        exact Classical.byContradiction fun hne => h ⟨Nat.not_le.1 hgt, hne⟩
  · -- An overtaken name has several entries.
    intro hover
    rw [get?_writeAll, if_neg (Nat.not_le.2 hover.1)]
  · intro value
    rw [get?_add_writeAll]
    split
    · rename_i hle
      exact ⟨fun _ => .inl hle, fun _ => rfl⟩
    · rename_i hgt
      exact ⟨.inr, fun h => h.resolve_left hgt⟩

-- The value added last is not read: the object came in between.
example :
    (empty.writeAll [.add "a" (.text "1"), .merge [("a", .string "2")], .add "a" (.text "3")]).get?
      "a" = some (.text "2") := by
  rfl

/-! ## Names that are added to only -/

section

open Placeholder

variable {p : Params} {name key : String} {bindings : List (String × Value)}

/-- Whether each name has one entry at most. -/
def IsSingle (p : Params) : Prop := ∀ name, (valuesOf name p.entries).length ≤ 1

theorem isSingle_empty : empty.IsSingle := fun _ => Nat.zero_le 1

private theorem valuesOf_add_self (p : Params) (key : String) (v : Value) :
    valuesOf (clean key) (p.add key v).entries =
      place (valuesOf (clean key) p.entries) (.added v) :=
  valuesOf_assign_self (clean key) v p.entries

private theorem valuesOf_add_of_ne (p : Params) (h : clean key ≠ name) (v : Value) :
    valuesOf name (p.add key v).entries = valuesOf name p.entries :=
  valuesOf_assign_of_ne h v p.entries

theorem get?_add_of_ne (p : Params) (h : clean key ≠ clean name) (v : Value) :
    (p.add key v).get? name = p.get? name := by
  rw [get?_eq_getLast?, get?_eq_getLast?, valuesOf_add_of_ne p h]

theorem get?_congr (p : Params) (h : clean key = clean name) : p.get? key = p.get? name := by
  rw [get?, get?, h]

/-- Whether a name has one entry at most. -/
def IsSingleAt (p : Params) (name : String) : Prop :=
  (valuesOf (clean name) p.entries).length ≤ 1

theorem isSingleAt_add_of_ne (h : p.IsSingleAt name) (hne : clean key ≠ clean name) (v : Value) :
    (p.add key v).IsSingleAt name := by
  rw [IsSingleAt, valuesOf_add_of_ne p hne]
  exact h

/-- What is added to a name with one entry at most is read from it. -/
theorem get?_add_self (h : p.IsSingleAt key) (v : Value) : (p.add key v).get? key = some v := by
  rw [IsSingleAt] at h
  rw [get?_eq_getLast?, valuesOf_add_self]
  -- The one entry that there may be takes the value.
  match hvalues : valuesOf (clean key) p.entries with
  | [] => rfl
  | [w] => rfl
  | w :: w' :: ws =>
    rw [hvalues, List.length_cons, List.length_cons] at h
    omega

/-- The values that are added to a name, in order. -/
def valuesAdded (name : String) (bindings : List (String × Value)) : List Value :=
  bindings.filterMap fun b => if clean b.1 = clean name then some b.2 else none

theorem valuesAdded_append (name : String) (bs cs : List (String × Value)) :
    valuesAdded name (bs ++ cs) = valuesAdded name bs ++ valuesAdded name cs :=
  List.filterMap_append

theorem valuesAdded_singleton (name : String) (b : String × Value) :
    valuesAdded name [b] = if clean b.1 = clean name then [b.2] else [] := by
  by_cases hname : clean b.1 = clean name
  · simp [valuesAdded, hname]
  · simp [valuesAdded, hname]

namespace IsSingle

/-- Adding makes no second entry of a name. -/
theorem add (h : p.IsSingle) (key : String) (v : Value) : (p.add key v).IsSingle := by
  intro name
  -- The values of the name itself are as many as before, or one.
  by_cases hname : clean key = name
  · subst hname
    have hlength := h (clean key)
    rw [valuesOf_add_self]
    cases hvalues : valuesOf (clean key) p.entries with
    | nil => exact Nat.le_refl 1
    | cons w ws =>
      rw [hvalues] at hlength
      exact hlength
  · rw [valuesOf_add_of_ne p hname]
    exact h name

/-- What is added to a name is read from it. -/
theorem get?_add (h : p.IsSingle) (key : String) (v : Value) :
    (p.add key v).get? key = some v :=
  get?_add_self (h (clean key)) v

theorem addAll (h : p.IsSingle) (bindings : List (String × Value)) :
    (p.addAll bindings).IsSingle := by
  induction bindings generalizing p with
  | nil => exact h
  | cons b bs ih => exact ih (h.add b.1 b.2)

/-- A name that is added to has the value added last. -/
theorem get?_addAll_eq_getLast? (h : p.IsSingle) (bindings : List (String × Value))
    (name : String) :
    (p.addAll bindings).get? name =
      (valuesAdded name bindings).getLast?.or (p.get? name) := by
  induction bindings using List.reverseRecOn with
  | nil => rfl
  | append_singleton bs b ih =>
    have hrun : p.addAll (bs ++ [b]) = (p.addAll bs).add b.1 b.2 := by
      simp only [Params.addAll, List.foldl_append, List.foldl_cons, List.foldl_nil]
    rw [hrun, valuesAdded_append, valuesAdded_singleton]
    -- The last binding hides the others of its name, and no others.
    by_cases hname : clean b.1 = clean name
    · rw [if_pos hname, List.getLast?_concat, get?_congr _ hname.symm, (h.addAll bs).get?_add]
      rfl
    · rw [if_neg hname, List.append_nil, get?_add_of_ne _ hname, ih]

/-- A name that is added to with one value only has this value in the end. -/
theorem get?_addAll (h : p.IsSingle) {b : String × Value} (hb : b ∈ bindings)
    (hagree : ∀ b' ∈ bindings, clean b'.1 = clean b.1 → b'.2 = b.2) :
    (p.addAll bindings).get? b.1 = some b.2 := by
  have hmem : b.2 ∈ valuesAdded b.1 bindings := List.mem_filterMap.2 ⟨b, hb, if_pos rfl⟩
  -- All values that the name is given are this one.
  have hall : ∀ v ∈ valuesAdded b.1 bindings, v = b.2 := by
    intro v hv
    obtain ⟨b', hb', hv⟩ := List.mem_filterMap.1 hv
    rw [Option.ite_none_right_eq_some, Option.some.injEq] at hv
    rw [← hv.2, hagree b' hb' hv.1]
  rw [h.get?_addAll_eq_getLast?]
  cases hlast : (valuesAdded b.1 bindings).getLast? with
  | none =>
    rw [List.getLast?_eq_none_iff.1 hlast] at hmem
    exact absurd hmem List.not_mem_nil
  | some v =>
    rw [hall v (List.mem_of_getLast? hlast)]
    rfl

end IsSingle

end

end SqlAssembly.Params
