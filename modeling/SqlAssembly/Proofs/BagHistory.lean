import Mathlib.Data.Set.Card
import SqlAssembly.Bag
import SqlAssembly.Query.Field

/-! # A bag is a map of names in lower case

Values are put into a bag and taken out of it under names in letters of either case, and a bag can
be put together anew from pairs.  What such edits assign is a history of names with a value or with
none.  The bag behind them has, for each name, the value assigned last, and its entries are those
names in lower case that have one.

* `Entries.mem_iff_lookup?`            the entries are what look-ups find
* `Entries.filter_put`, `Entries.filter_drop`   the entries of other names stay
* `Bag.Edit`, `Bag.edited`             the calls that change a bag, and the bag behind a run of them
* `Bag.history`                        what edits assign
* `Bag.IsLast`                         whether a value was assigned to a name last
* `Bag.edited_eq_foldl_assign`         a bag is what its history makes of no values
* `Bag.value?_edited_iff`              the bag behind edits as a map -/

namespace SqlAssembly

/-! ## Sorted entries -/

namespace Entries

variable {β : Type} {name n : String} {value v : β} {l : List (String × β)}

/-- The entries are what look-ups find. -/
theorem mem_iff_lookup? (h : Ascending l) : (n, v) ∈ l ↔ lookup? n l = some v := by
  induction l with
  | nil => simp [lookup?]
  | cons e rest ih =>
    obtain ⟨m, w⟩ := e
    obtain ⟨hlt, hrest⟩ := List.pairwise_cons.1 h
    rw [List.mem_cons, lookup?]
    split
    · -- The name is not below itself, so it has no second entry.
      rename_i hm
      subst hm
      have hnot : (m, v) ∉ rest := fun hmem => String.lt_irrefl m (hlt (m, v) hmem)
      rw [or_iff_left hnot, Prod.mk.injEq, Option.some.injEq, eq_comm (a := v)]
      exact and_iff_right rfl
    · rename_i hm
      rw [or_iff_right fun heq => hm (congrArg Prod.fst heq).symm]
      exact ih hrest

/-- Putting an entry leaves those of other names as they are. -/
theorem filter_put (name : String) (value : β) (l : List (String × β)) :
    (put name value l).2.filter (fun e => e.1 ≠ name) = l.filter (fun e => e.1 ≠ name) := by
  induction l with
  | nil => simp [put]
  | cons e rest ih =>
    obtain ⟨m, w⟩ := e
    rw [put]
    split
    · -- a smaller name, put in front
      exact List.filter_cons_of_neg (by simp)
    · split
      · -- the same name, whose value is replaced
        rename_i hm
        rw [List.filter_cons_of_neg (by simp), List.filter_cons_of_neg (by simp [hm])]
      · -- a greater name, put in further behind
        rw [List.filter_cons, List.filter_cons, ih]

/-- Dropping an entry leaves those of other names as they are. -/
theorem filter_drop (name : String) (l : List (String × β)) :
    (drop name l).2.filter (fun e => e.1 ≠ name) = l.filter (fun e => e.1 ≠ name) := by
  induction l with
  | nil => rfl
  | cons e rest ih =>
    obtain ⟨m, w⟩ := e
    rw [drop]
    split
    · rename_i hm
      rw [List.filter_cons_of_neg (by simp [hm])]
    · rw [List.filter_cons, List.filter_cons, ih]

end Entries

namespace Bag

variable {b : Bag} {key : String} {v : Value}

/-! ## Edits -/

/-- A call that changes a bag. -/
inductive Edit where
  /-- Put in a value under a name. -/
  | insert (key : String) (value : Value)
  /-- Put in a value under the name of a field. -/
  | insertField (field : Field) (value : Value)
  /-- Take out the value of a name. -/
  | take (key : String)
  /-- Put the bag together anew. -/
  | collect (pairs : List (String × Value))

/-- The effect of a call. -/
def edit (b : Bag) : Edit → Bag
  | .insert key value => b.insert key value
  | .insertField field value => b.insert field.name value
  | .take key => (b.take key).2
  | .collect pairs => ofList pairs

/-- The bag behind calls, from one without values on. -/
def edited (edits : List Edit) : Bag := edits.foldl edit empty

/-- The one name that a call is about; there is none if the bag is put together anew. -/
def Edit.key? : Edit → Option String
  | .insert key _ | .take key => some key
  | .insertField field _ => some field.name
  | .collect _ => none

/-! ## Histories -/

/-- Give a name a value, or none. -/
def assign (b : Bag) : String × Option Value → Bag
  | (key, some value) => b.insert key value
  | (key, none) => (b.take key).2

/-- What a call assigns. -/
def Edit.assignments : Edit → List (String × Option Value)
  | .insert key value => [(key, some value)]
  | .insertField field value => [(field.name, some value)]
  | .take key => [(key, none)]
  | .collect pairs => pairs.map fun p => (p.1, some p.2)

/-- The history behind a call.  It starts afresh if the bag is put together anew. -/
def Edit.extend (h : List (String × Option Value)) (e : Edit) : List (String × Option Value) :=
  if e.key?.isSome then h ++ e.assignments else e.assignments

/-- What calls assign. -/
def history (edits : List Edit) : List (String × Option Value) := edits.foldl Edit.extend []

/-- Whether a value was assigned to a name last, whatever the case of the letters. -/
def IsLast (key : String) (v : Value) (h : List (String × Option Value)) : Prop :=
  ∃ before name after, h = before ++ (name, some v) :: after ∧
    normalize name = normalize key ∧ ∀ a ∈ after, normalize a.1 ≠ normalize key

/-- A later assignment hides the earlier ones of the same name, and no others. -/
private theorem isLast_append_singleton (h : List (String × Option Value))
    (a : String × Option Value) : IsLast key v (h ++ [a]) ↔
      if normalize a.1 = normalize key then a.2 = some v else IsLast key v h := by
  constructor
  · rintro ⟨before, name, after, hsplit, hname, hafter⟩
    -- The last assignment is the one that counts, or one behind it.
    rcases List.eq_nil_or_concat after with rfl | ⟨after, last, rfl⟩
    · obtain ⟨-, rfl⟩ := List.append_singleton_inj.1 hsplit
      rw [if_pos hname]
    · rw [List.concat_eq_append] at hsplit hafter
      rw [← List.cons_append, ← List.append_assoc] at hsplit
      obtain ⟨rfl, rfl⟩ := List.append_singleton_inj.1 hsplit
      rw [if_neg (hafter a (List.mem_append_right after List.mem_cons_self))]
      exact ⟨before, name, after, rfl, hname,
        fun c hc => hafter c (List.mem_append_left _ hc)⟩
  · intro hlast
    split at hlast
    · rename_i hname
      -- The new assignment is the last one of all.
      refine ⟨h, a.1, [], ?_, hname, fun c hc => absurd hc List.not_mem_nil⟩
      rw [← hlast]
    · rename_i hname
      -- One of another name behind it does not hide the one that counted.
      obtain ⟨before, name, after, rfl, hsame, hafter⟩ := hlast
      refine ⟨before, name, after ++ [a], by rw [List.append_assoc, List.cons_append], hsame,
        fun c hc => ?_⟩
      rcases List.mem_append.1 hc with hc | hc
      · exact hafter c hc
      · rwa [List.mem_singleton.1 hc]

/-! ## Reading and changing -/

/-- What is assigned is read under the name, in letters of either case, and under no other. -/
theorem value?_assign (b : Bag) (a : String × Option Value) (key : String) :
    (b.assign a).value? key =
      if normalize a.1 = normalize key then a.2 else b.value? key := by
  obtain ⟨name, value⟩ := a
  cases value with
  | some v => exact Entries.lookup?_put
  | none => exact Entries.lookup?_drop b.ascending

/-- The value that is read is the one assigned last. -/
theorem value?_foldl_assign_iff (h : List (String × Option Value)) :
    (h.foldl assign empty).value? key = some v ↔ IsLast key v h := by
  -- From the last assignment on back, as a later one hides the earlier ones.
  induction h using List.reverseRecOn with
  | nil =>
    refine iff_of_false (fun hvalue => nomatch hvalue) ?_
    rintro ⟨before, name, after, hsplit, -⟩
    exact absurd hsplit.symm (List.append_ne_nil_of_right_ne_nil _ (List.cons_ne_nil _ _))
  | append_singleton h a ih =>
    rw [List.foldl_append, List.foldl_cons, List.foldl_nil, value?_assign,
      isLast_append_singleton, ← ih]
    split <;> exact Iff.rfl

/-- A call does to a bag what it assigns. -/
private theorem edit_foldl_assign (h : List (String × Option Value)) (e : Edit) :
    (h.foldl assign empty).edit e = (e.extend h).foldl assign empty := by
  cases e with
  | collect pairs =>
    -- The values there were do not count any more.
    show ofList pairs = (pairs.map fun p => (p.1, some p.2)).foldl assign empty
    rw [List.foldl_map]
    rfl
  | insert key value | insertField field value | take key =>
    show _ = (h ++ [_]).foldl assign empty
    rw [List.foldl_append]
    rfl

/-- A bag is what its history makes of no values. -/
theorem edited_eq_foldl_assign (edits : List Edit) :
    edited edits = (history edits).foldl assign empty := by
  induction edits using List.reverseRecOn with
  | nil => rfl
  | append_singleton edits e ih =>
    have hedited : edited (edits ++ [e]) = (edited edits).edit e := List.foldl_append
    have hhistory : history (edits ++ [e]) = e.extend (history edits) := List.foldl_append
    rw [hedited, hhistory, ih]
    exact edit_foldl_assign (history edits) e

/-- The names of the entries are in lower case. -/
private theorem exists_normalize_eq (edits : List Edit) {e : String × Value}
    (he : e ∈ (edited edits).entries) : ∃ key, normalize key = e.1 := by
  rw [edited_eq_foldl_assign] at he
  -- Only the assignments matter, so the induction is on these.
  generalize history edits = h at he
  induction h using List.reverseRecOn with
  | nil => exact absurd he List.not_mem_nil
  | append_singleton h a ih =>
    obtain ⟨name, value⟩ := a
    rw [List.foldl_append, List.foldl_cons, List.foldl_nil] at he
    cases value with
    | some v =>
      rcases Entries.mem_put he with rfl | he
      · exact ⟨name, rfl⟩
      · exact ih he
    | none => exact ih (Entries.mem_drop he)

/-- The entries are the names in lower case that have a value. -/
theorem mem_entries_iff (edits : List Edit) {n : String} :
    (n, v) ∈ (edited edits).entries ↔
      ∃ key, normalize key = n ∧ (edited edits).value? key = some v := by
  constructor
  · intro he
    obtain ⟨key, rfl⟩ := exists_normalize_eq edits he
    exact ⟨key, rfl, (Entries.mem_iff_lookup? (edited edits).ascending).1 he⟩
  · rintro ⟨key, rfl, hvalue⟩
    exact (Entries.mem_iff_lookup? (edited edits).ascending).2 hvalue

theorem contains_iff : b.contains key = true ↔ ∃ v, b.value? key = some v := by
  rw [contains, Option.isSome_iff_exists]

/-- There are as many values as names in lower case that have one. -/
theorem size_edited (edits : List Edit) :
    (edited edits).size =
      {n | ∃ key, normalize key = n ∧ (edited edits).contains key = true}.ncard := by
  let names := (edited edits).entries.map (·.1)
  -- The names ascend, so that none stands twice.
  have hnodup : names.Nodup := by
    refine List.pairwise_map.2 ((edited edits).ascending.imp fun {e e'} hlt heq => ?_)
    rw [heq] at hlt
    exact String.lt_irrefl _ hlt
  have hnames : {n | ∃ key, normalize key = n ∧ (edited edits).contains key = true} =
      (names.toFinset : Set String) := by
    ext n
    rw [Set.mem_ofPred_eq, List.coe_toFinset, Set.mem_ofPred_eq, List.mem_map]
    constructor
    · rintro ⟨key, hkey, hcontains⟩
      obtain ⟨v, hv⟩ := contains_iff.1 hcontains
      exact ⟨(n, v), (mem_entries_iff edits).2 ⟨key, hkey, hv⟩, rfl⟩
    · rintro ⟨⟨m, v⟩, he, rfl⟩
      obtain ⟨key, hkey, hv⟩ := (mem_entries_iff edits).1 he
      exact ⟨key, hkey, contains_iff.2 ⟨v, hv⟩⟩
  rw [hnames, Set.ncard_coe_finset, List.toFinset_card_of_nodup hnodup, List.length_map, size]

/-- A call about one name leaves the entries of all others as they are. -/
private theorem filter_entries_edit (b : Bag) {e : Edit} (he : e.key? = some key) :
    (b.edit e).entries.filter (fun entry => entry.1 ≠ normalize key) =
      b.entries.filter fun entry => entry.1 ≠ normalize key := by
  cases e with
  | insert name value | insertField field value =>
    obtain rfl := Option.some.inj he
    exact Entries.filter_put _ value b.entries
  | take name =>
    obtain rfl := Option.some.inj he
    exact Entries.filter_drop _ b.entries
  | collect pairs => cases he

/-- **A bag is a map of names in lower case.**  Behind any edits a name has the value that was
    assigned last to it, in letters of either case, since the bag was put together.  Putting in and
    taking out return the value there was.  The entries are the names in lower case that have a
    value, each once and in ascending order, and no edit of one name changes those of others. -/
theorem value?_edited_iff (edits : List Edit) :
    let b := edited edits
    (∀ key v, b.value? key = some v ↔ IsLast key v (history edits)) ∧
      (∀ key, b.contains key = true ↔ ∃ v, b.value? key = some v) ∧
      (∀ key v, (b.exchange key v).1 = b.value? key ∧ (b.take key).1 = b.value? key) ∧
      b.size = {n | ∃ key, normalize key = n ∧ b.contains key = true}.ncard ∧
      (∀ n v, (n, v) ∈ b.entries ↔ ∃ key, normalize key = n ∧ b.value? key = some v) ∧
      b.entries.Pairwise (fun e e' => e.1 < e'.1) ∧
      ∀ (e : Edit) key, e.key? = some key →
        (b.edit e).entries.filter (fun entry => entry.1 ≠ normalize key) =
          b.entries.filter fun entry => entry.1 ≠ normalize key := by
  intro b
  refine ⟨fun key v => ?_, fun key => contains_iff, fun key v => ⟨?_, ?_⟩, size_edited edits,
    fun n v => mem_entries_iff edits, b.ascending, fun e key he => filter_entries_edit b he⟩
  · rw [← value?_foldl_assign_iff, ← edited_eq_foldl_assign]
  · exact Entries.put_fst b.ascending
  · exact Entries.drop_fst

end Bag

end SqlAssembly
