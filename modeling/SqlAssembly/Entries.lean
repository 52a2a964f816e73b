/-! # Entries sorted by name

Lists of named entries in ascending order of their names, each name once.

* `Entries.put`         puts an entry at its place and returns the one it replaces
* `Entries.drop`        removes an entry and returns it
* `Entries.lookup?`     the entry of a name
* `Entries.Ascending`   the order, kept by `put` and `drop`

What `put` and `drop` do to `lookup?` is stated by `lookup?_put` and `lookup?_drop`. -/

namespace SqlAssembly.Entries

variable {β : Type}

/-- The names ascend, so that each stands once. -/
def Ascending (l : List (String × β)) : Prop := l.Pairwise fun a b => a.1 < b.1

/-- The entry of a name. -/
def lookup? (name : String) : List (String × β) → Option β
  | [] => none
  | (n, v) :: rest => if n = name then some v else lookup? name rest

/-- The entry of that name so far, and the entries with `value` in its place. -/
def put (name : String) (value : β) : List (String × β) → Option β × List (String × β)
  | [] => (none, [(name, value)])
  | (n, v) :: rest =>
    if name < n then (none, (name, value) :: (n, v) :: rest)
    else if name = n then (some v, (name, value) :: rest)
    else
      let (old, entries) := put name value rest
      (old, (n, v) :: entries)

/-- The entry of that name so far, and the entries without it. -/
def drop (name : String) : List (String × β) → Option β × List (String × β)
  | [] => (none, [])
  | (n, v) :: rest =>
    if n = name then (some v, rest)
    else
      let (old, entries) := drop name rest
      (old, (n, v) :: entries)

private theorem lt_of_not_lt_of_ne {a b : String} (h : ¬a < b) (hne : a ≠ b) : b < a := by
  rcases Decidable.em (b < a) with h' | h'
  · exact h'
  · exact absurd (String.le_antisymm (String.not_lt.1 h') (String.not_lt.1 h)) hne

theorem mem_put {name : String} {value : β} {l : List (String × β)} {e : String × β}
    (h : e ∈ (put name value l).2) : e = (name, value) ∨ e ∈ l := by
  induction l with
  | nil => simpa [put] using h
  | cons hd tl ih =>
    obtain ⟨n, v⟩ := hd
    simp only [put] at h
    split at h
    · simpa using h
    · split at h
      · rcases List.mem_cons.1 h with h | h
        · exact .inl h
        · exact .inr (List.mem_cons_of_mem _ h)
      · rcases List.mem_cons.1 h with h | h
        · exact .inr (h ▸ List.mem_cons_self)
        · rcases ih h with h | h
          · exact .inl h
          · exact .inr (List.mem_cons_of_mem _ h)

theorem mem_drop {name : String} {l : List (String × β)} {e : String × β}
    (h : e ∈ (drop name l).2) : e ∈ l := by
  induction l with
  | nil => simp [drop] at h
  | cons hd tl ih =>
    obtain ⟨n, v⟩ := hd
    simp only [drop] at h
    split at h
    · exact List.mem_cons_of_mem _ h
    · rcases List.mem_cons.1 h with h | h
      · exact h ▸ List.mem_cons_self
      · exact List.mem_cons_of_mem _ (ih h)

/-- Putting an entry keeps the order. -/
theorem Ascending.put {name : String} {value : β} {l : List (String × β)} (h : Ascending l) :
    Ascending (put name value l).2 := by
  induction l with
  | nil => simp [Entries.put, Ascending]
  | cons hd tl ih =>
    obtain ⟨n, v⟩ := hd
    obtain ⟨hlt, htl⟩ := List.pairwise_cons.1 h
    simp only [Entries.put]
    split
    · rename_i hn
      refine List.pairwise_cons.2 ⟨?_, h⟩
      intro e he
      rcases List.mem_cons.1 he with rfl | he
      · exact hn
      · exact String.lt_trans hn (hlt e he)
    · split
      · rename_i hn
        subst hn
        exact List.pairwise_cons.2 ⟨hlt, htl⟩
      · rename_i hn hne
        refine List.pairwise_cons.2 ⟨?_, ih htl⟩
        intro e he
        rcases mem_put he with rfl | he
        · exact lt_of_not_lt_of_ne hn hne
        · exact hlt e he

/-- Removing an entry keeps the order. -/
theorem Ascending.drop {name : String} {l : List (String × β)} (h : Ascending l) :
    Ascending (drop name l).2 := by
  induction l with
  | nil => simp [Entries.drop, Ascending]
  | cons hd tl ih =>
    obtain ⟨n, v⟩ := hd
    obtain ⟨hlt, htl⟩ := List.pairwise_cons.1 h
    simp only [Entries.drop]
    split
    · exact htl
    · exact List.pairwise_cons.2 ⟨fun e he => hlt e (mem_drop he), ih htl⟩

/-- A name below all names has no entry. -/
theorem lookup?_eq_none_of_lt {name : String} {l : List (String × β)}
    (h : ∀ e ∈ l, name < e.1) : lookup? name l = none := by
  induction l with
  | nil => rfl
  | cons hd tl ih =>
    obtain ⟨n, v⟩ := hd
    have hn : name < n := h (n, v) List.mem_cons_self
    simp only [lookup?]
    rw [if_neg (by rintro rfl; exact String.lt_irrefl _ hn)]
    exact ih fun e he => h e (List.mem_cons_of_mem _ he)

theorem put_fst {name : String} {value : β} {l : List (String × β)} (h : Ascending l) :
    (put name value l).1 = lookup? name l := by
  induction l with
  | nil => rfl
  | cons hd tl ih =>
    obtain ⟨n, v⟩ := hd
    obtain ⟨hlt, htl⟩ := List.pairwise_cons.1 h
    simp only [put, lookup?]
    split
    · rename_i hn
      rw [if_neg (by rintro rfl; exact String.lt_irrefl _ hn)]
      exact (lookup?_eq_none_of_lt fun e he => String.lt_trans hn (hlt e he)).symm
    · split
      · rename_i hn
        simp [hn]
      · rename_i hne
        rw [if_neg (Ne.symm hne)]
        exact ih htl

theorem drop_fst {name : String} {l : List (String × β)} :
    (drop name l).1 = lookup? name l := by
  induction l with
  | nil => rfl
  | cons hd tl ih =>
    obtain ⟨n, v⟩ := hd
    simp only [drop, lookup?]
    split
    · rfl
    · exact ih

theorem lookup?_put {name other : String} {value : β} {l : List (String × β)} :
    lookup? other (put name value l).2 = if name = other then some value else lookup? other l := by
  induction l with
  | nil => simp [put, lookup?]
  | cons hd tl ih =>
    obtain ⟨n, v⟩ := hd
    simp only [put]
    split
    · simp [lookup?]
    · split
      · rename_i hn
        subst hn
        by_cases hno : name = other <;> simp [lookup?, hno]
      · rename_i hne
        simp only [lookup?, ih]
        by_cases hno : n = other
        · subst hno; simp [hne]
        · simp [hno]

theorem lookup?_drop {name other : String} {l : List (String × β)} (h : Ascending l) :
    lookup? other (drop name l).2 = if name = other then none else lookup? other l := by
  induction l with
  | nil => simp [drop, lookup?]
  | cons hd tl ih =>
    obtain ⟨n, v⟩ := hd
    obtain ⟨hlt, htl⟩ := List.pairwise_cons.1 h
    simp only [drop]
    split
    · rename_i hn
      subst hn
      by_cases hno : n = other
      · subst hno; simpa using lookup?_eq_none_of_lt hlt
      · simp [lookup?, hno]
    · rename_i hne
      simp only [lookup?, ih htl]
      by_cases hno : n = other
      · subst hno; simp [Ne.symm hne]
      · simp [hno]

end SqlAssembly.Entries
