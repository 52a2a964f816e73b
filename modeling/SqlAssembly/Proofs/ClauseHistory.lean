import Mathlib.Data.List.DropRight
import SqlAssembly.Builder.Clause

/-! # Clauses are an ordered multi-map

What clauses hold after any edits is said in two other ways.  One is a map that has an entry for a
clause or has none, and whose edits are those of a map.  The other looks at the edits alone: a
clause holds what it was last replaced by, unless it was removed after that, and behind it what was
added to it since.

The map is kept in step with the clauses edit by edit, where a clause without fragments stands for
no entry.  What an edit does to the entry of a clause, it does to what the history says of it.

* `Clauses.Edit`, `Clauses.edited`     the calls that change clauses, and the clauses behind them
* `Clauses.EntryMap`, `Clauses.entries`   the map behind the same calls
* `Clauses.Represents`                 how clauses stand for a map
* `Clauses.represents_edited`          they do after any edits
* `Clauses.lead?`, `Clauses.since`, `Clauses.addedTo`   the parts of a history
* `Clauses.get_edited`                 the clauses as the history tells them
* `Clauses.edited_exact`               the clauses, the map, the history and what is read -/

namespace SqlAssembly.Clauses

variable {c : Clauses} {k : Clause} {edits : List Edit}

/-! ## Edits -/

/-- A call that changes clauses. -/
inductive Edit where
  | add (clause : Clause) (f : Fragment)
  | remove (clause : Clause)
  | replace (clause : Clause) (f : Fragment)

namespace Edit

/-- The clause that a call is about. -/
def clause : Edit → Clause
  | add k _ | remove k | replace k _ => k

/-- Whether a call drops what the clause has so far. -/
def resets (k : Clause) : Edit → Bool
  | add .. => false
  | remove j | replace j _ => j = k

/-- What a call puts in place of all fragments of its clause. -/
def replacement? : Edit → Option Fragment
  | replace _ f => some f
  | _ => none

/-- What a call adds to a clause. -/
def addition? (k : Clause) : Edit → Option Fragment
  | add j f => if j = k then some f else none
  | _ => none

variable {e : Edit}

private theorem resets_of_ne (h : k ≠ e.clause) : e.resets k = false := by
  cases e with
  | add => rfl
  | remove j | replace j => exact decide_eq_false (Ne.symm h)

private theorem addition?_of_ne (h : k ≠ e.clause) : e.addition? k = none := by
  cases e with
  | add j => exact if_neg (Ne.symm h)
  | remove | replace => rfl

end Edit

/-- The effect of a call. -/
def edit (c : Clauses) : Edit → Clauses
  | .add k f => c.add k f
  | .remove k => (c.remove k).2
  | .replace k f => c.replace k f

/-- The clauses behind calls, from none on. -/
def edited (edits : List Edit) : Clauses := edits.foldl edit empty

/-- An edit of one clause leaves the others alone. -/
private theorem get_edit_of_ne (c : Clauses) {e : Edit} (h : k ≠ e.clause) :
    (c.edit e).get k = c.get k :=
  match e with
  | .add _ f => get_add_of_ne c f h
  | .remove _ => get_set_of_ne c [] h
  | .replace _ f => get_replace_of_ne c f h

/-! ## Entries of a map -/

/-- A map that has an entry for a clause or has none. -/
structure EntryMap where
  get? : Clause → Option (List Fragment)

namespace EntryMap

/-- No entries. -/
def empty : EntryMap := ⟨fun _ => none⟩

/-- The map with another entry for a clause, or with none. -/
def set (m : EntryMap) (k : Clause) (entry : Option (List Fragment)) : EntryMap :=
  ⟨fun j => if j = k then entry else m.get? j⟩

@[simp] theorem get?_set_self (m : EntryMap) (k : Clause) (entry : Option (List Fragment)) :
    (m.set k entry).get? k = entry := by simp [set]

private theorem get?_set_of_ne (m : EntryMap) {j k : Clause} (entry : Option (List Fragment))
    (h : j ≠ k) : (m.set k entry).get? j = m.get? j := by simp [set, h]

end EntryMap

/-- The entry of its clause behind a call, given the one before it. -/
def Edit.entry (old : Option (List Fragment)) : Edit → Option (List Fragment)
  | add _ f => some (old.getD [] ++ [f])
  | remove _ => none
  | replace _ f => some [f]

/-- The effect of a call on a map. -/
def EntryMap.edit (m : EntryMap) (e : Edit) : EntryMap :=
  m.set e.clause (e.entry (m.get? e.clause))

/-- The map behind calls, from one without entries on. -/
def entries (edits : List Edit) : EntryMap := edits.foldl EntryMap.edit .empty

/-- Whether clauses stand for a map: they have the fragments of its entries, none of which is
    empty, and no others. -/
structure Represents (c : Clauses) (m : EntryMap) : Prop where
  get_eq : ∀ k, c.get k = (m.get? k).getD []
  ne_nil : ∀ k fs, m.get? k = some fs → fs ≠ []

/-- No call makes an empty entry. -/
private theorem Edit.entry_ne_nil {e : Edit} {old : Option (List Fragment)} {fs : List Fragment}
    (h : e.entry old = some fs) : fs ≠ [] := by
  cases e with
  | add => exact Option.some.inj h ▸ List.append_ne_nil_of_right_ne_nil _ (List.cons_ne_nil _ _)
  | remove => exact nomatch h
  | replace => exact Option.some.inj h ▸ List.cons_ne_nil _ _

/-- What a call makes of the fragments of its clause, it makes of the entry. -/
theorem get_edit_self (c : Clauses) {old : Option (List Fragment)} (e : Edit)
    (h : c.get e.clause = old.getD []) : (c.edit e).get e.clause = (e.entry old).getD [] := by
  cases e with
  | add k f =>
    -- Where there was no entry, the clause had no fragments to add to.
    rw [Edit.clause] at h
    rw [Edit.clause, edit, get_add_self, h]
    rfl
  | remove k => exact get_set_self c k []
  | replace k f => exact get_replace_self c k f

/-- The clauses behind an edit stand for the map behind it. -/
theorem Represents.edit {m : EntryMap} (h : c.Represents m) (e : Edit) :
    (c.edit e).Represents (m.edit e) where
  get_eq k := by
    rw [EntryMap.edit]
    by_cases hk : k = e.clause
    · rw [hk, EntryMap.get?_set_self]
      exact c.get_edit_self e (h.get_eq e.clause)
    · rw [EntryMap.get?_set_of_ne m _ hk, get_edit_of_ne c hk]
      exact h.get_eq k
  ne_nil k fs hfs := by
    rw [EntryMap.edit] at hfs
    by_cases hk : k = e.clause
    · rw [hk, EntryMap.get?_set_self] at hfs
      exact Edit.entry_ne_nil hfs
    · rw [EntryMap.get?_set_of_ne m _ hk] at hfs
      exact h.ne_nil k fs hfs

private theorem Represents.foldl_edit {m : EntryMap} (h : c.Represents m) (edits : List Edit) :
    (edits.foldl Clauses.edit c).Represents (edits.foldl EntryMap.edit m) := by
  -- Both sides take the first edit, hence any clauses and any map.
  induction edits generalizing c m with
  | nil => exact h
  | cons e edits ih => exact ih (h.edit e)

/-- Edited clauses stand for the edited map. -/
theorem represents_edited (edits : List Edit) : (edited edits).Represents (entries edits) :=
  Represents.foldl_edit ⟨fun _ => rfl, fun _ _ h => absurd h.symm (Option.some_ne_none _)⟩ edits

/-- Removing a clause returns its entry. -/
private theorem Represents.remove_fst {m : EntryMap} (h : c.Represents m) (k : Clause) :
    (c.remove k).1 = m.get? k := by
  rw [remove, h.get_eq]
  -- A clause without fragments is one without an entry, as no entry is empty.
  cases hentry : m.get? k with
  | none => rfl
  | some fs =>
    have hne := h.ne_nil k fs hentry
    simp [hne]

/-! ## Histories -/

/-- What a clause was replaced by when it was last replaced or removed. -/
def lead? (k : Clause) (edits : List Edit) : Option Fragment :=
  (edits.filter (Edit.resets k)).getLast?.bind Edit.replacement?

/-- The calls since a clause was last replaced or removed. -/
def since (k : Clause) (edits : List Edit) : List Edit :=
  edits.rtakeWhile fun e => !e.resets k

/-- What calls add to a clause, in their order. -/
def addedTo (k : Clause) (edits : List Edit) : List Fragment := edits.filterMap (Edit.addition? k)

private theorem addedTo_concat (k : Clause) (edits : List Edit) (e : Edit) :
    addedTo k (edits ++ [e]) = addedTo k edits ++ (e.addition? k).toList := by
  rw [addedTo, List.filterMap_append, addedTo]
  cases hadd : e.addition? k <;> simp [hadd]

/-- What a clause holds by its history. -/
def recorded (k : Clause) (edits : List Edit) : List Fragment :=
  (lead? k edits).toList ++ addedTo k (since k edits)

/-- A call that drops what a clause has begins its history anew. -/
private theorem recorded_concat_of_resets {e : Edit} (h : e.resets k = true) (edits : List Edit) :
    recorded k (edits ++ [e]) = e.replacement?.toList := by
  -- Nothing was added since, as the call itself is the last one to drop the clause.
  have hsince : since k (edits ++ [e]) = [] :=
    List.rtakeWhile_concat_neg _ _ _ (by simp [h])
  rw [recorded, hsince, lead?, List.filter_append, List.filter_cons_of_pos h, List.filter_nil,
    List.getLast?_append_of_ne_nil _ (List.cons_ne_nil _ _), List.getLast?_singleton,
    addedTo, List.filterMap_nil, List.append_nil, Option.bind_some]

/-- Any other call adds to it, or is about another clause. -/
private theorem recorded_concat_of_not_resets {e : Edit} (h : e.resets k = false)
    (edits : List Edit) :
    recorded k (edits ++ [e]) = recorded k edits ++ (e.addition? k).toList := by
  have hsince : since k (edits ++ [e]) = since k edits ++ [e] :=
    List.rtakeWhile_concat_pos _ _ _ (by simp [h])
  -- The call in front is still the last one to drop the clause.
  have hlead : lead? k (edits ++ [e]) = lead? k edits := by
    rw [lead?, List.filter_append, List.filter_cons_of_neg (by simp [h]), List.filter_nil,
      List.append_nil, lead?]
  rw [recorded, hsince, hlead, addedTo_concat, ← List.append_assoc, recorded]

/-- Edited clauses hold what their history says. -/
theorem get_edited (edits : List Edit) (k : Clause) : (edited edits).get k = recorded k edits := by
  -- From the last call on: it begins the history of the clause anew, adds to it, or is about
  -- another clause.
  induction edits using List.reverseRecOn with
  | nil => rfl
  | append_singleton edits e ih =>
    have hrun : edited (edits ++ [e]) = (edited edits).edit e := by
      rw [edited, List.foldl_append]
      rfl
    rw [hrun]
    by_cases hk : k = e.clause
    · rw [hk] at ih ⊢
      -- On its own clause, adding goes on with the history and the others begin it anew.
      cases e with
      | add j f =>
        rw [recorded_concat_of_not_resets rfl, ← ih]
        simp [edit, Edit.clause, Edit.addition?]
      | remove j =>
        rw [recorded_concat_of_resets (by simp [Edit.resets, Edit.clause])]
        exact get_set_self _ j []
      | replace j f =>
        rw [recorded_concat_of_resets (by simp [Edit.resets, Edit.clause])]
        exact get_replace_self _ j f
    · rw [get_edit_of_ne _ hk, ih, recorded_concat_of_not_resets (Edit.resets_of_ne hk),
        Edit.addition?_of_ne hk]
      exact (List.append_nil _).symm

/-! ## Reading -/

/-- What is found first by a view that one fragment alone has this value in. -/
private theorem findSome?_eq_some_iff_of_view {α : Type} {view : Fragment → Option α} {x : α}
    {f : Fragment} (hview : ∀ g, view g = some x ↔ g = f) (fs : List Fragment) :
    fs.findSome? view = some x ↔
      ∃ before after, fs = before ++ f :: after ∧ ∀ g ∈ before, view g = none := by
  rw [List.findSome?_eq_some_iff]
  constructor
  · intro hfirst
    obtain ⟨before, g, after, hfs, hg, hbefore⟩ := hfirst
    obtain rfl := (hview g).1 hg
    exact ⟨before, after, hfs, hbefore⟩
  · intro hfirst
    obtain ⟨before, after, hfs, hbefore⟩ := hfirst
    exact ⟨before, f, after, hfs, (hview f).2 rfl, hbefore⟩

/-- The first page among the fragments of its clause. -/
theorem page?_eq_some_iff {w : PageWindow} :
    c.page? = some w ↔ ∃ before after, c.get .page = before ++ .page w :: after ∧
      ∀ f ∈ before, f.page? = none :=
  findSome?_eq_some_iff_of_view (fun _ => Fragment.page?_eq_some_iff) (c.get .page)

/-- The first limit among the fragments of its clause. -/
theorem limit?_eq_some_iff {r : Int × Int} :
    c.limit? = some r ↔ ∃ before after, c.get .limit = before ++ .limit r.1 r.2 :: after ∧
      ∀ f ∈ before, f.limit? = none :=
  findSome?_eq_some_iff_of_view (fun _ => Fragment.limit?_eq_some_iff) (c.get .limit)

/-- The joined texts of a clause. -/
theorem joined?_eq_some_iff {s : String} :
    c.joined? k = some s ↔ (c.get k).filterMap Fragment.text? ≠ [] ∧
      s = k.separator.intercalate ((c.get k).filterMap Fragment.text?) := by
  rw [joined?, texts]
  -- Without a text nothing is joined, not even to the empty text.
  cases (c.get k).filterMap Fragment.text? with
  | nil => simp
  | cons t ts => simp [eq_comm]

theorem has_iff : c.has k = true ↔ c.get k ≠ [] := by
  rw [has, Bool.not_eq_true', List.isEmpty_eq_false_iff]

/-- After any edits a clause holds what it was last replaced by, unless it was removed since, and
    behind it what was added to it since.  That is the entry of a map with the same edits, which
    `remove` returns; there is none if and only if the clause holds nothing.  An edit of one clause
    leaves the others alone.  What is read of a clause is told by its own fragments: the count of
    them, whether there is one, their texts, and the first page or limit. -/
theorem edited_exact :
    (∀ (edits : List Edit) (k : Clause),
      (edited edits).get k = (lead? k edits).toList ++ addedTo k (since k edits) ∧
      ((edited edits).remove k).1 = (entries edits).get? k ∧
      (edited edits).get k = ((entries edits).get? k).getD [] ∧
      (((edited edits).remove k).1 = none ↔ (edited edits).get k = [])) ∧
    (∀ (c : Clauses) (e : Edit) (k : Clause), k ≠ e.clause → (c.edit e).get k = c.get k) ∧
    (∀ (c : Clauses) (k : Clause),
      c.count k = (c.get k).length ∧ (c.has k = true ↔ c.get k ≠ []) ∧
      ∀ s, c.joined? k = some s ↔ (c.get k).filterMap Fragment.text? ≠ [] ∧
        s = k.separator.intercalate ((c.get k).filterMap Fragment.text?)) ∧
    (∀ (c : Clauses) (w : PageWindow), c.page? = some w ↔
      ∃ before after, c.get .page = before ++ .page w :: after ∧
        ∀ f ∈ before, f.page? = none) ∧
    (∀ (c : Clauses) (r : Int × Int), c.limit? = some r ↔
      ∃ before after, c.get .limit = before ++ .limit r.1 r.2 :: after ∧
        ∀ f ∈ before, f.limit? = none) := by
  refine ⟨fun edits k => ?_, fun c e k => c.get_edit_of_ne,
    fun c k => ⟨rfl, has_iff, fun s => joined?_eq_some_iff⟩, fun c w => page?_eq_some_iff,
    fun c r => limit?_eq_some_iff⟩
  have hmap := represents_edited edits
  refine ⟨get_edited edits k, hmap.remove_fst k, hmap.get_eq k, ?_⟩
  -- What is left is that `remove` returns an entry only of a clause with fragments.
  rw [remove]
  cases (edited edits).get k with
  | nil => simp
  | cons f fs => simp

/-- A window of twenty rows. -/
def firstTwenty : PageWindow := ⟨0, IntWidth.int32.clamp 20, true, ""⟩

/-- Edits of several clauses in turn, some of which are reset. -/
def mixedEdits : List Edit :=
  [.add .condition (.text "a=1"), .add .limit (.limit 0 1), .replace .limit (.limit 5 10),
    .remove .condition, .add .page (.text "totals"), .add .limit (.limit 7 7),
    .add .condition (.text "b=2"), .add .page (.page firstTwenty),
    .add .condition (.text "c=3"), .remove .join, .replace .orderBy (.text "id"), .remove .orderBy]

/-- A clause replaced and added to, one removed and added to, one replaced and removed, one that
    no edit leaves anything in, and a page behind a fragment of another kind. -/
theorem edited_exact_mixedEdits :
    (edited mixedEdits).get .limit = [.limit 5 10, .limit 7 7] ∧
      (edited mixedEdits).get .condition = [.text "b=2", .text "c=3"] ∧
      ((edited mixedEdits).remove .orderBy).1 = none ∧
      ((edited mixedEdits).edit (.remove .condition)).get .limit = [.limit 5 10, .limit 7 7] ∧
      (edited mixedEdits).joined? .condition = some "b=2 AND c=3" ∧
      (edited mixedEdits).page? = some firstTwenty ∧
      (edited mixedEdits).limit? = some (5, 10) := by
  have hlimit : (edited mixedEdits).get .limit = [.limit 5 10, .limit 7 7] :=
    (edited_exact.1 mixedEdits .limit).1.trans (by decide)
  have hcondition : (edited mixedEdits).get .condition = [.text "b=2", .text "c=3"] :=
    (edited_exact.1 mixedEdits .condition).1.trans (by decide)
  refine ⟨hlimit, hcondition, (edited_exact.1 mixedEdits .orderBy).2.1.trans (by decide), ?_, ?_,
    ?_, ?_⟩
  · rw [edited_exact.2.1 _ _ _ (by decide), hlimit]
  · rw [(edited_exact.2.2.1 _ _).2.2, hcondition]
    decide
  · rw [edited_exact.2.2.2.1]
    exact ⟨[.text "totals"], [], by decide, by decide⟩
  · rw [edited_exact.2.2.2.2]
    exact ⟨[], [.limit 7 7], hlimit, by decide⟩

end SqlAssembly.Clauses
