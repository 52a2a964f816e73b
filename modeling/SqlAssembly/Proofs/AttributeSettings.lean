import SqlAssembly.Proofs.PlainNames

/-! # What attributes say

The settings of an attribute are carried out one by one, and the first thing out of place is an
error.  Where there is none, the settings can be told from the tokens at a glance: each name is a
setting, and a text behind an equals sign is its value.  So what a declaration or a field gets is
what the last setting of a name says, over all its attributes.

* `Setting.ofTokens`, `settingsOf`   the settings in tokens and in attributes
* `textOf?`                          the text that the last setting of a name gives
* `foldlM_induction`                 what a fold that may fail keeps
* `readSettings_induction`           what settings keep that are carried out
* `FieldOptions.Says`, `says_of_optionsOf`   the options of a field are what its settings say
* `tableOf_eq_ok`                    the table is the one of the last setting -/

namespace SqlAssembly.Derive

/-! ## Settings -/

/-- A setting: its name, and the text that it gives if it gives one. -/
structure Setting where
  name : String
  text : Option String
deriving DecidableEq, Repr

/-- The settings in tokens.  What is out of place in tokens does not matter here. -/
def Setting.ofTokens : List Token → List Setting
  | .word name :: .mark '=' :: .text _ value :: ts => ⟨name, some value⟩ :: ofTokens ts
  | .word name :: ts => ⟨name, none⟩ :: ofTokens ts
  | _ :: ts => ofTokens ts
  | [] => []

/-- The settings in attributes, in order. -/
def settingsOf (attributes : List Attribute) : List Setting :=
  attributes.flatMap fun a => Setting.ofTokens a.tokens

/-- The text that the last setting of a name gives. -/
def textOf? (name : String) (settings : List Setting) : Option String :=
  (settings.filterMap fun s => if s.name = name then s.text else none).getLast?

private theorem textOf?_append_self (settings : List Setting) (name text : String) :
    textOf? name (settings ++ [⟨name, some text⟩]) = some text := by
  simp [textOf?]

private theorem textOf?_append_of_ne {name other : String} (settings : List Setting)
    (text : Option String) (h : other ≠ name) :
    textOf? name (settings ++ [⟨other, text⟩]) = textOf? name settings := by
  simp [textOf?, h]

/-- A setting stands in front of `rest`, given the tokens behind its name. -/
def Setting.Ends (s : Setting) (ts rest : List Token) : Prop :=
  match s.text with
  | none => ts = rest
  | some value => ∃ written, ts = .mark '=' :: .text written value :: rest

/-- A setting at the end of tokens is their last one. -/
private theorem Setting.Ends.ofTokens_eq {s : Setting} {ts : List Token} (h : s.Ends ts []) :
    ofTokens (.word s.name :: ts) = [s] := by
  obtain ⟨name, text⟩ := s
  cases text with
  | none =>
    obtain rfl : ts = [] := h
    rfl
  | some value =>
    obtain ⟨written, rfl⟩ := h
    rfl

/-- A setting with a comma behind it stands in front of the settings behind that. -/
private theorem Setting.Ends.ofTokens_comma {s : Setting} {ts rest : List Token}
    (h : s.Ends ts (.mark ',' :: rest)) :
    ofTokens (.word s.name :: ts) = s :: ofTokens rest := by
  obtain ⟨name, text⟩ := s
  cases text with
  | none =>
    obtain rfl : ts = .mark ',' :: rest := h
    rfl
  | some value =>
    obtain ⟨written, rfl⟩ := h
    rfl

/-- What stands behind a setting is no longer than what stands behind its name. -/
theorem Setting.Ends.length_le {s : Setting} {ts rest : List Token} (h : s.Ends ts rest) :
    rest.length ≤ ts.length := by
  obtain ⟨name, text⟩ := s
  cases text with
  | none =>
    obtain rfl : ts = rest := h
    exact Nat.le_refl _
  | some value =>
    obtain ⟨written, rfl⟩ := h
    simp only [List.length_cons]
    omega

/-! ## Reading single settings -/

/-- Without names behind colons nothing is dropped. -/
private theorem dropSegments_eq_ok {ts rest : List Token}
    (h : dropSegments ts = .ok (false, rest)) : rest = ts := by
  unfold dropSegments at h
  -- A name behind colons makes it a path, and colons without a name are an error.
  split at h
  · obtain ⟨p, -, h⟩ := exists_of_bind_eq_ok h
    exact nomatch h
  · exact nomatch h
  · exact nomatch h
  · exact (Prod.mk.inj (Except.ok.inj h)).2.symm

/-- A setting that is no path starts with its name. -/
private theorem readSetting_eq_ok {ts rest : List Token} {name : String}
    (h : readSetting ts = .ok (some name, rest)) : ts = .word name :: rest := by
  unfold readSetting at h
  split at h
  · obtain ⟨⟨isPath, more⟩, hmore, h⟩ := exists_of_bind_eq_ok h
    obtain ⟨hname, rfl⟩ := Prod.mk.inj (Except.ok.inj h)
    -- A path has no name to give.
    cases isPath with
    | true => exact nomatch hname
    | false => rw [dropSegments_eq_ok hmore, Option.some.inj hname]
  · obtain ⟨p, -, h⟩ := exists_of_bind_eq_ok h
    exact nomatch h
  all_goals exact nomatch h

/-- A text stands behind an equals sign. -/
private theorem readText_eq_ok {ts rest : List Token} {value : String}
    (h : readText ts = .ok (value, rest)) :
    ∃ written, ts = .mark '=' :: .text written value :: rest := by
  unfold readText at h
  split at h
  · rename_i written value' rest'
    obtain ⟨rfl, rfl⟩ := Prod.mk.inj (Except.ok.inj h)
    exact ⟨written, rfl⟩
  all_goals exact nomatch h

/-! ## What is kept -/

/-- What each step of a fold keeps, given the elements behind it, the whole fold keeps. -/
theorem foldlM_induction {α β ε : Type} {f : α → β → Except ε α} {R : List β → α → Prop}
    (hstep : ∀ done a b a', R done a → f a b = .ok a' → R (done ++ [b]) a') (done : List β)
    {todo : List β} {a a' : α} (ha : R done a) (h : todo.foldlM f a = .ok a') :
    R (done ++ todo) a' := by
  -- What is kept is about the elements done, to which each step adds one.
  induction todo generalizing done a with
  | nil =>
    obtain rfl := Except.ok.inj h
    rwa [List.append_nil]
  | cons b todo ih =>
    rw [List.foldlM_cons] at h
    obtain ⟨a₁, hfirst, hrest⟩ := exists_of_bind_eq_ok h
    have hall := ih (done ++ [b]) (hstep done a b a₁ ha hfirst) hrest
    rwa [List.append_assoc] at hall

section

variable {α : Type}
  {next : α → Option String → List Token → Except DeriveError (α × List Token)}
  {R : List Setting → α → Prop}

/-- What each setting keeps, given the settings behind it, the settings in tokens keep. -/
theorem readSettings_induction
    (hnext : ∀ done a name ts a' rest, R done a → next a name ts = .ok (a', rest) →
      ∃ s : Setting, name = some s.name ∧ s.Ends ts rest ∧ R (done ++ [s]) a')
    {fuel : Nat} {ts : List Token} (hfuel : ts.length ≤ fuel) {done : List Setting} {a a' : α}
    (ha : R done a) (h : readSettings next fuel a ts = .ok a') :
    R (done ++ Setting.ofTokens ts) a' := by
  -- Each setting takes a token at least, so there is fuel for all of them.
  induction fuel generalizing done a ts with
  | zero =>
    obtain rfl := List.length_eq_zero_iff.1 (Nat.le_zero.1 hfuel)
    obtain rfl := Except.ok.inj h
    rwa [Setting.ofTokens, List.append_nil]
  | succ fuel ih =>
    cases ts with
    | nil =>
      obtain rfl := Except.ok.inj h
      rwa [Setting.ofTokens, List.append_nil]
    | cons t ts =>
      obtain ⟨⟨name, behind⟩, hread, hcarried⟩ := exists_of_bind_eq_ok h
      obtain ⟨⟨a₁, rest⟩, hcarry, hmore⟩ := exists_of_bind_eq_ok hcarried
      dsimp only at hmore
      obtain ⟨s, rfl, hends, hs⟩ := hnext done a name behind a₁ rest ha hcarry
      have hsplit := readSetting_eq_ok hread
      have hlength := congrArg List.length hsplit
      simp only [List.length_cons] at hlength hfuel
      rw [hsplit]
      -- Behind a setting there is nothing, or a comma and what comes next.
      split at hmore
      · obtain rfl := Except.ok.inj hmore
        rwa [hends.ofTokens_eq]
      · rename_i more
        have hshorter := hends.length_le
        simp only [List.length_cons] at hshorter
        rw [hends.ofTokens_comma, List.append_cons]
        exact ih (by omega) hs hmore
      · exact nomatch hmore

/-- What each setting keeps the settings in attributes keep. -/
theorem settings_induction
    (hnext : ∀ done a name ts a' rest, R done a → next a name ts = .ok (a', rest) →
      ∃ s : Setting, name = some s.name ∧ s.Ends ts rest ∧ R (done ++ [s]) a')
    {attributes : List Attribute} {a a' : α} (ha : R [] a)
    (h : attributes.foldlM (Attribute.settings next) a = .ok a') :
    R (settingsOf attributes) a' := by
  refine foldlM_induction (R := fun done a => R (settingsOf done) a) ?_ [] ha h
  intro done a source a' hdone hsource
  have hlast : settingsOf (done ++ [source]) =
      settingsOf done ++ Setting.ofTokens source.tokens := by
    simp [settingsOf]
  rw [hlast]
  exact readSettings_induction hnext (Nat.le_refl _) hdone hsource

end

/-! ## Fields -/

/-- Options of a field are what settings say: the last column and the last key are the ones that
    count, and one setting is enough to skip the field. -/
structure FieldOptions.Says (settings : List Setting) (o : FieldOptions) : Prop where
  column_eq : o.column = (textOf? "column" settings).map Text.trim
  key_eq : o.key = textOf? "name" settings
  isSkipped_iff : o.isSkipped = true ↔ ⟨"skip", none⟩ ∈ settings
  isPlainName : ∀ column ∈ o.column, IsPlainName column.toList
  trim_ne_empty : ∀ key ∈ o.key, Text.trim key ≠ ""

/-- A setting of a field is carried out as it says. -/
theorem FieldOptions.Says.setOption {done : List Setting} {o o' : FieldOptions}
    {name : Option String} {ts rest : List Token} (ho : o.Says done)
    (h : setOption o name ts = .ok (o', rest)) :
    ∃ s : Setting, name = some s.name ∧ s.Ends ts rest ∧ o'.Says (done ++ [s]) := by
  obtain ⟨hcolumn, hkey, hskip, hplain, hblank⟩ := ho
  unfold Derive.setOption at h
  split at h
  · -- a column, which is trimmed and has to be a plain name
    rename_i hname
    obtain ⟨⟨value, rest'⟩, htext, h⟩ := exists_of_bind_eq_ok h
    obtain ⟨column, hread, h⟩ := exists_of_bind_eq_ok h
    obtain ⟨rfl, rfl⟩ := Prod.mk.inj (Except.ok.inj h)
    obtain ⟨htrim, hcolumnPlain⟩ := readColumn_eq_ok hread
    refine ⟨⟨"column", some value⟩, hname, readText_eq_ok htext, ?_, ?_, ?_, ?_, hblank⟩
    · rw [textOf?_append_self, Option.map_some, htrim]
    · rw [textOf?_append_of_ne _ _ (by decide), ← hkey]
    · simp [hskip]
    · intro c hc
      obtain rfl := Option.some.inj hc
      exact hcolumnPlain
  split at h
  · -- a key, which is kept as it is written but must not be blank
    rename_i hname
    obtain ⟨⟨value, rest'⟩, htext, hvalue⟩ := exists_of_bind_eq_ok h
    dsimp only at hvalue
    split at hvalue
    · exact nomatch hvalue
    · rename_i hink
      obtain ⟨rfl, rfl⟩ := Prod.mk.inj (Except.ok.inj hvalue)
      refine ⟨⟨"name", some value⟩, hname, readText_eq_ok htext, ?_, ?_, ?_, hplain, ?_⟩
      · rw [textOf?_append_of_ne _ _ (by decide), ← hcolumn]
      · rw [textOf?_append_self]
      · simp [hskip]
      · intro key hkey hempty
        obtain rfl := Option.some.inj hkey
        rw [← Text.toList_trim, hempty] at hink
        exact hink rfl
  split at h
  · -- a flag without a text
    rename_i hname
    obtain ⟨rfl, rfl⟩ := Prod.mk.inj (Except.ok.inj h)
    refine ⟨⟨"skip", none⟩, hname, rfl, ?_, ?_, ?_, hplain, hblank⟩
    · rw [textOf?_append_of_ne _ _ (by decide), ← hcolumn]
    · rw [textOf?_append_of_ne _ _ (by decide), ← hkey]
    · simp
  · exact nomatch h

/-- The options of a field are what its settings say. -/
theorem says_of_optionsOf {attributes : List Attribute} {o : FieldOptions}
    (h : optionsOf attributes = .ok o) : o.Says (settingsOf attributes) := by
  refine settings_induction (R := fun done o => FieldOptions.Says done o) ?_ ?_ h
  · intro done o name ts o' rest ho hnext
    exact ho.setOption hnext
  · exact ⟨rfl, rfl, by simp, nofun, nofun⟩

/-! ## Tables -/

/-- A table is what settings say, and made of plain names with dots between them. -/
def TableSays (settings : List Setting) (table : Option String) : Prop :=
  table = (textOf? "table" settings).map Text.trim ∧
    ∀ name ∈ table, ∀ x ∈ Text.splitAt '.' name, IsPlainName x.toList

/-- A setting of a declaration is carried out as it says. -/
private theorem tableSays_setTable {done : List Setting} {before after : Option String}
    {name : Option String} {ts rest : List Token}
    (h : setTable before name ts = .ok (after, rest)) :
    ∃ s : Setting, name = some s.name ∧ s.Ends ts rest ∧ TableSays (done ++ [s]) after := by
  unfold setTable at h
  split at h
  · rename_i hname
    obtain ⟨⟨value, rest'⟩, htext, h⟩ := exists_of_bind_eq_ok h
    obtain ⟨table, hread, h⟩ := exists_of_bind_eq_ok h
    obtain ⟨rfl, rfl⟩ := Prod.mk.inj (Except.ok.inj h)
    obtain ⟨htrim, hplain⟩ := readName_eq_ok hread
    refine ⟨⟨"table", some value⟩, hname, readText_eq_ok htext, ?_, ?_⟩
    · rw [textOf?_append_self, Option.map_some, htrim]
    · intro found hfound
      obtain rfl := Option.some.inj hfound
      exact hplain
  · -- There is no other setting of a declaration.
    exact nomatch h

/-- The table is the one of the last setting, trimmed, and made of plain names with dots between
    them. -/
theorem tableOf_eq_ok {attributes : List Attribute} {table : String}
    (h : tableOf attributes = .ok table) :
    (textOf? "table" (settingsOf attributes)).map Text.trim = some table ∧
      ∀ x ∈ Text.splitAt '.' table, IsPlainName x.toList := by
  obtain ⟨found, hfold, h⟩ := exists_of_bind_eq_ok h
  have hfound : TableSays (settingsOf attributes) found :=
    settings_induction (R := TableSays)
      (fun _ _ _ _ _ _ _ hnext => tableSays_setTable hnext) ⟨rfl, nofun⟩ hfold
  -- A declaration without a table is an error.
  split at h
  · obtain rfl := Except.ok.inj h
    exact ⟨hfound.1.symm, hfound.2 _ rfl⟩
  · exact nomatch h

end SqlAssembly.Derive
