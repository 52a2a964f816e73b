import SqlAssembly.Builder.Basic

/-! # Which names are bound

`Params.contains` asks only for names, so what a call does to it is said by the names it binds.
No call unbinds a name.

* `Params.contains_iff`            a name is bound if its clean form is among the names
* `Params.names_add`               a name keeps its place, or gets the last one
* `Params.contains_add`, `Params.contains_addAll`, `Params.contains_merge`
                                   the names bound by single names and by objects
* `Builder.isPositional_iff`       when arguments are bound one by one
* `Builder.contains_bindArgs_of_contains`   the arguments of a condition unbind no name
* `Builder.contains_bindArgs_of_mem_tokens` they bind every placeholder that they match -/

namespace SqlAssembly

open Placeholder

namespace Params

variable {p : Params} {name : String}

/-- A name is bound if its clean form is among the names. -/
theorem contains_iff : p.contains name = true ↔ clean name ∈ p.names := by
  rw [contains, get?, Option.isSome_map, List.find?_isSome, names, List.mem_map]
  simp only [List.mem_reverse, decide_eq_true_eq]

/-- A name keeps its place, or gets the last one if it is new. -/
theorem names_add (p : Params) (name : String) (value : Value) :
    (p.add name value).names =
      if clean name ∈ p.names then p.names else p.names ++ [clean name] := by
  obtain ⟨entries⟩ := p
  show (assign (clean name) value entries).map (·.1) =
    if clean name ∈ entries.map (·.1) then entries.map (·.1) else entries.map (·.1) ++ [clean name]
  induction entries with
  | nil => rfl
  | cons e rest ih =>
    obtain ⟨n, v⟩ := e
    rw [assign]
    -- The entry of the name keeps its place, and one of another name is passed.
    by_cases hn : n = clean name
    · simp [hn]
    · rw [if_neg hn, List.map_cons, ih]
      simp only [List.map_cons, List.mem_cons, Ne.symm hn, false_or]
      split <;> rfl

theorem contains_add {key : String} {value : Value} :
    (p.add key value).contains name = true ↔
      clean name = clean key ∨ p.contains name = true := by
  rw [contains_iff, contains_iff, names_add]
  split
  · rename_i hmem
    exact ⟨.inr, fun h => h.elim (fun heq => heq ▸ hmem) id⟩
  · rw [List.mem_append, List.mem_singleton]
    exact or_comm

theorem contains_addAll {bindings : List (String × Value)} :
    (p.addAll bindings).contains name = true ↔
      clean name ∈ bindings.map (fun b => clean b.1) ∨ p.contains name = true := by
  -- The first binding is added before the others, hence any parameters.
  induction bindings generalizing p with
  | nil => simp [addAll]
  | cons b bs ih =>
    rw [addAll, List.foldl_cons, ← addAll, ih, contains_add, List.map_cons, List.mem_cons]
    exact or_left_comm.trans or_assoc.symm

theorem contains_merge {fields : Json.Fields} :
    (p.merge fields).contains name = true ↔
      p.contains name = true ∨ clean name ∈ fields.map (fun f => clean f.1) := by
  rw [contains_iff, contains_iff, names, merge, List.map_append, List.mem_append, List.map_map]
  rfl

end Params

namespace Builder

variable {p : Params} {name : String}

private theorem contains_bindObjects_of_contains {args : List Value} (h : p.contains name = true) :
    (bindObjects p args).contains name = true := by
  induction args generalizing p with
  | nil => exact h
  | cons a args ih =>
    -- Objects are merged, and any other argument is passed over.
    cases a with
    | object fields => exact ih (Params.contains_merge.2 (.inl h))
    | _ => exact ih h

/-- The arguments of a condition unbind no name. -/
theorem contains_bindArgs_of_contains {text : String} {args : List Value}
    (h : p.contains name = true) : (bindArgs p text args).contains name = true := by
  rw [bindArgs]
  split
  · exact Params.contains_addAll.2 (.inr h)
  · exact contains_bindObjects_of_contains h

/-- Arguments are bound one by one if there are as many as placeholders, one at least and none of
    them an object. -/
theorem isPositional_iff {text : String} {args : List Value} :
    isPositional text args = true ↔
      tokens text ≠ [] ∧ args.length = (tokens text).length ∧ ∀ a ∈ args, a.isObject = false := by
  simp only [isPositional, Bool.and_eq_true, Bool.not_eq_true', List.isEmpty_eq_false_iff,
    decide_eq_true_eq, List.any_eq_false, Bool.not_eq_true, and_assoc, eq_comm (a := args.length)]

/-- Names that are bound one by one, as they are kept. -/
theorem map_clean_zip {names : List String} {args : List Value} (h : names.length ≤ args.length) :
    (names.zip args).map (fun b => clean b.1) = names.map clean := by
  rw [show (fun b : String × Value => clean b.1) = clean ∘ Prod.fst from rfl, ← List.map_map,
    List.map_fst_zip h]

/-- As many arguments as placeholders, none of them an object, bind all of them. -/
theorem contains_bindArgs_of_mem_tokens {text : String} {args : List Value}
    (hlength : args.length = (tokens text).length) (hobject : ∀ a ∈ args, a.isObject = false)
    {t : String} (h : t ∈ tokens text) : (bindArgs p text args).contains t = true := by
  -- With a placeholder there is an argument, so that they are bound by position.
  have hpositional : isPositional text args = true :=
    isPositional_iff.2 ⟨List.ne_nil_of_mem h, hlength, hobject⟩
  rw [bindArgs, if_pos hpositional, Params.contains_addAll,
    map_clean_zip (Nat.le_of_eq hlength.symm)]
  left
  exact List.mem_map_of_mem h

end Builder

end SqlAssembly
