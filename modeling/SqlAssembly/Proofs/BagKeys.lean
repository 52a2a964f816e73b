import SqlAssembly.Proofs.BagHistory
import SqlAssembly.Proofs.LowerCase

/-! # The names of a bag are in their final form

A name is put into lower case when a value is put in under it, and again when it is looked up.  As
lower case is stable, the second time changes nothing: the entries of a bag are found under their
own names, and a bag is what comes of putting in its entries once more.

* `Entries.put_of_forall_lt`     an entry behind all others goes to the end
* `Bag.IsReachable`              the bags that calls make
* `Bag.IsReachable.isNormal`     their names are in lower case
* `Bag.IsNormal.ofList_entries`  a bag is made of its entries
* `Bag.normalize_stable`         names, look-ups and entries agree -/

namespace SqlAssembly

namespace Entries

variable {β : Type} {name : String} {value : β} {l : List (String × β)}

/-- An entry whose name is above all others goes to the end. -/
theorem put_of_forall_lt (h : ∀ e ∈ l, e.1 < name) :
    (put name value l).2 = l ++ [(name, value)] := by
  induction l with
  | nil => rfl
  | cons e rest ih =>
    obtain ⟨n, v⟩ := e
    obtain ⟨hn, hrest⟩ := List.forall_mem_cons.1 h
    have hne : name ≠ n := fun heq => String.lt_irrefl n (heq ▸ hn)
    rw [put, if_neg (String.lt_asymm hn), if_neg hne, List.cons_append, ← ih hrest]

end Entries

namespace Bag

variable {b : Bag} {key : String} {v : Value}

/-! ## Names -/

theorem normalize_normalize (key : String) : normalize (normalize key) = normalize key :=
  Text.lowercase_lowercase key

/-- Whether the entries have names that look-ups leave as they are. -/
def IsNormal (b : Bag) : Prop := ∀ e ∈ b.entries, normalize e.1 = e.1

theorem isNormal_empty : empty.IsNormal := fun _ he => absurd he List.not_mem_nil

theorem IsNormal.insert (h : b.IsNormal) (key : String) (v : Value) :
    (b.insert key v).IsNormal := by
  intro e he
  cases Entries.mem_put he with
  | inl heq =>
    subst heq
    exact normalize_normalize key
  | inr hmem => exact h e hmem

theorem IsNormal.take (h : b.IsNormal) (key : String) : (b.take key).2.IsNormal :=
  fun e he => h e (Entries.mem_drop he)

theorem isNormal_ofList (pairs : List (String × Value)) : (ofList pairs).IsNormal := by
  rw [ofList]
  -- The last pair is put in last.
  induction pairs using List.reverseRecOn with
  | nil => exact isNormal_empty
  | append_singleton pairs p ih =>
    rw [List.foldl_append]
    exact ih.insert p.1 p.2

/-! ## Bags that calls make -/

/-- The bags that are reached from one without values by the calls that make and change bags. -/
inductive IsReachable : Bag → Prop
  | empty : IsReachable empty
  | edit {b : Bag} (h : IsReachable b) (e : Edit) : IsReachable (b.edit e)
  | orderBy {b : Bag} (h : IsReachable b) (column : String) (isAscending : Bool) :
    IsReachable (b.orderBy column isAscending)
  | ofSerialized {b : Bag} {source : Except SerializationError Json} {required : List String}
    (h : ofSerialized source required = .ok b) : IsReachable b

theorem isReachable_edited (edits : List Edit) : (edited edits).IsReachable := by
  induction edits using List.reverseRecOn with
  | nil => exact .empty
  | append_singleton edits e ih =>
    rw [edited, List.foldl_append]
    exact .edit ih e

theorem IsNormal.edit (h : b.IsNormal) (e : Edit) : (b.edit e).IsNormal := by
  cases e with
  | insert key v => exact h.insert key v
  | insertField f v => exact h.insert f.name v
  | take key => exact h.take key
  | collect pairs => exact isNormal_ofList pairs

theorem IsNormal.orderBy (h : b.IsNormal) (column : String) (isAscending : Bool) :
    (b.orderBy column isAscending).IsNormal := by
  rw [Bag.orderBy]
  -- An order that is there already is left as it is.
  split
  · exact h
  · exact (h.insert orderByKey _).insert ascendingKey _

private theorem isNormal_of_ofSerialized {source : Except SerializationError Json}
    {required : List String} (h : ofSerialized source required = .ok b) : b.IsNormal := by
  unfold ofSerialized at h
  -- Only an object becomes a bag.
  split at h
  · obtain rfl := Except.ok.inj h
    exact isNormal_ofList _
  · exact nomatch h
  · exact nomatch h

/-- The names of a bag that calls make are in lower case. -/
theorem IsReachable.isNormal (h : b.IsReachable) : b.IsNormal := by
  induction h with
  | empty => exact isNormal_empty
  | edit _ e ih => exact ih.edit e
  | orderBy _ column isAscending ih => exact ih.orderBy column isAscending
  | ofSerialized hsource => exact isNormal_of_ofSerialized hsource

/-! ## Entries -/

/-- An entry is found under its own name. -/
private theorem IsNormal.value?_of_mem (h : b.IsNormal) (he : (key, v) ∈ b.entries) :
    b.value? key = some v := by
  rw [value?, h _ he]
  exact (Entries.mem_iff_lookup? b.ascending).1 he

/-- Entries that ascend behind those of a bag are put in at its end, one after the other. -/
private theorem entries_foldl_insert {entries : List (String × Value)}
    (hnormal : ∀ e ∈ entries, normalize e.1 = e.1)
    (hascending : Entries.Ascending (b.entries ++ entries)) :
    (entries.foldl (fun b e => b.insert e.1 e.2) b).entries = b.entries ++ entries := by
  -- The bag grows by the first entry, so that the induction is on any bag.
  induction entries generalizing b with
  | nil => exact (List.append_nil _).symm
  | cons e rest ih =>
    obtain ⟨he, hrest⟩ := List.forall_mem_cons.1 hnormal
    -- The name is above all those of the bag, so that the entry goes to the end.
    have hlt : ∀ e' ∈ b.entries, e'.1 < normalize e.1 := fun e' he' => by
      rw [he]
      exact (List.pairwise_append.1 hascending).2.2 e' he' e List.mem_cons_self
    have hinsert : (b.insert e.1 e.2).entries = b.entries ++ [e] :=
      (Entries.put_of_forall_lt hlt).trans (by rw [he])
    rw [List.foldl_cons, ih hrest, hinsert, List.append_assoc, List.singleton_append]
    rw [hinsert, List.append_assoc]
    exact hascending

theorem eq_of_entries_eq {c : Bag} (h : b.entries = c.entries) : b = c := by
  cases b
  cases c
  cases h
  rfl

/-- A bag whose names are in lower case is made of its entries. -/
theorem IsNormal.ofList_entries (h : b.IsNormal) : ofList b.entries = b :=
  eq_of_entries_eq (entries_foldl_insert h b.ascending)

/-- **The names of a bag are stable and blind to the case of ASCII letters.**  Normalizing a name a
    second time changes nothing, and names that are equal but for the case of ASCII letters have the
    same form.  So each entry of a bag, however calls have made it, is the value found under its
    name, and the entries put in anew make an equal bag. -/
theorem normalize_stable :
    (∀ key, normalize (normalize key) = normalize key) ∧
      (∀ key key', Text.equalUpToCase key key' = true → normalize key = normalize key') ∧
      ∀ b, IsReachable b →
        (∀ key v, (key, v) ∈ b.entries → b.value? key = some v) ∧ ofList b.entries = b := by
  refine ⟨normalize_normalize, fun key key' h => Text.lowercase_congr h, fun b hb => ⟨?_, ?_⟩⟩
  · exact fun key v he => hb.isNormal.value?_of_mem he
  · exact hb.isNormal.ofList_entries

/-- Greek names: one ends in a capital sigma, and the other begins with one and has a capital I with
    a dot. -/
def greekEdits : List Edit := [.insert "ΤΕΛΟΣ" (.bool true), .insert "ΣİD" .null]

/-- The sigma at the end of a word is kept in its final form, and the other one is not. -/
theorem normalize_stable_greekEdits :
    Text.equalUpToCase "ΣİD" "Σİd" = true ∧ normalize "ΣİD" = normalize "Σİd" ∧
      (edited greekEdits).IsReachable ∧ ("τελος", .bool true) ∈ (edited greekEdits).entries ∧
      (edited greekEdits).value? "τελος" = some (.bool true) ∧
      ofList (edited greekEdits).entries = edited greekEdits := by
  have hcase : Text.equalUpToCase "ΣİD" "Σİd" = true := by decide +kernel
  have hreachable := isReachable_edited greekEdits
  -- The second name is another one in lower case too.
  have hlast : IsLast "ΤΕΛΟΣ" (.bool true) (history greekEdits) := by
    refine ⟨[], "ΤΕΛΟΣ", [("ΣİD", some .null)], rfl, rfl, fun a ha => ?_⟩
    rw [List.mem_singleton.1 ha]
    decide +kernel
  have hmem : ("τελος", .bool true) ∈ (edited greekEdits).entries := by
    refine (mem_entries_iff greekEdits).2 ⟨"ΤΕΛΟΣ", by decide +kernel, ?_⟩
    rw [edited_eq_foldl_assign]
    exact (value?_foldl_assign_iff _).2 hlast
  obtain ⟨-, hblind, hbag⟩ := normalize_stable
  obtain ⟨hvalue, hsame⟩ := hbag (edited greekEdits) hreachable
  exact ⟨hcase, hblind _ _ hcase, hreachable, hmem, hvalue _ _ hmem, hsame⟩

end Bag

end SqlAssembly
