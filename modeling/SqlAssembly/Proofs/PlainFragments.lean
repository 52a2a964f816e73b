import SqlAssembly.Proofs.AddedFragments
import SqlAssembly.Proofs.BoundPlaceholders

/-! # Fragments without semicolons

Statements are told apart by semicolons, so it matters which fragments have one.  A call whose own
texts have none adds none: the keywords, the operators and the names that are made up for
parameters are free of them.

* `Text.IsPlain`, `Fragment.IsPlain`, `Clauses.IsPlain`
                                        texts, fragments and clauses without semicolons
* `Builder.Call.IsPlain`                no semicolon in the texts of a call
* `Builder.Call.IsPlain.of_mem_added`   then there is none in what it adds
* `Builder.isPlain_clauses_run`         nor behind a run of such calls -/

namespace SqlAssembly

/-! ## Texts -/

namespace Text

/-- Whether a text has no semicolon. -/
def IsPlain (s : String) : Prop := ';' ∉ s.toList

instance (s : String) : Decidable (IsPlain s) := inferInstanceAs (Decidable (';' ∉ s.toList))

theorem isPlain_append {a b : String} : IsPlain (a ++ b) ↔ IsPlain a ∧ IsPlain b := by
  rw [IsPlain, String.toList_append, List.mem_append, not_or]
  rfl

theorem isPlain_intercalate {sep : String} (hsep : IsPlain sep) {xs : List String}
    (h : ∀ x ∈ xs, IsPlain x) : IsPlain (sep.intercalate xs) := by
  induction xs with
  | nil => exact List.not_mem_nil
  | cons x xs ih =>
    have hx := h x List.mem_cons_self
    have hxs := ih fun y hy => h y (List.mem_cons_of_mem x hy)
    -- A single text has no separator behind it.
    cases xs with
    | nil => rwa [String.intercalate_singleton]
    | cons y ys =>
      rw [String.intercalate_cons_cons, isPlain_append, isPlain_append]
      exact ⟨⟨hx, hsep⟩, hxs⟩

theorem isPlain_intText (n : Int) : IsPlain (Json.intText n) :=
  Json.not_mem_intText (by decide) (by decide) n

theorem IsPlain.mono {a b : String} (h : IsPlain a) (hsub : ∀ c ∈ b.toList, c ∈ a.toList) :
    IsPlain b := fun hc => h (hsub _ hc)

/-- A word has no semicolon. -/
private theorem isPlain_of_isWordText {w : String} (h : isWordText w = true) : IsPlain w :=
  Placeholder.not_mem_of_isWordText h (by decide)

end Text

namespace Placeholder

private theorem mem_of_mem_clean {s : String} {c : Char} (h : c ∈ (clean s).toList) :
    c ∈ s.toList := by
  rw [clean, String.toList_ofList] at h
  exact (List.dropWhile_sublist _).subset (List.mem_filter.1 h).1

private theorem isPlain_clean {s : String} (h : Text.IsPlain s) : Text.IsPlain (clean s) :=
  h.mono fun _ hc => mem_of_mem_clean hc

theorem isPlain_cleanLast {s : String} (h : Text.IsPlain s) : Text.IsPlain (cleanLast s) := by
  refine isPlain_clean (h.mono fun c hc => ?_)
  -- The last segment is cut from the end, so its characters are those of the text.
  rw [Text.lastSegment, String.toList_ofList, List.mem_reverse] at hc
  exact List.mem_reverse.1 ((List.takeWhile_sublist _).subset hc)

end Placeholder

/-! ## Fragments -/

/-- The texts that a fragment brings into a statement. -/
def Fragment.contents : Fragment → List String
  | .text s => [s]
  | .column field value | .duplicate field value => [field, value]
  | .page window => [window.totals]
  | .limit .. | .forUpdate => []

/-- Whether a fragment has no semicolon. -/
def Fragment.IsPlain (f : Fragment) : Prop := ∀ s ∈ f.contents, Text.IsPlain s

namespace Fragment

theorem isPlain_text {s : String} : (text s).IsPlain ↔ Text.IsPlain s := by
  simp [Fragment.IsPlain, contents]

private theorem isPlain_column {field value : String} :
    (column field value).IsPlain ↔ Text.IsPlain field ∧ Text.IsPlain value := by
  simp [Fragment.IsPlain, contents]

private theorem isPlain_duplicate {field value : String} :
    (duplicate field value).IsPlain ↔ Text.IsPlain field ∧ Text.IsPlain value := by
  simp [Fragment.IsPlain, contents]

private theorem isPlain_page {window : PageWindow} :
    (page window).IsPlain ↔ Text.IsPlain window.totals := by
  simp [Fragment.IsPlain, contents]

end Fragment

/-- Whether no fragment of a clause has a semicolon. -/
def Clauses.IsPlain (c : Clauses) (k : Clause) : Prop := ∀ f ∈ c.get k, f.IsPlain

namespace Clauses

variable {c : Clauses} {k : Clause}

private theorem IsPlain.of_mem_texts (h : c.IsPlain k) {s : String} (hs : s ∈ c.texts k) :
    Text.IsPlain s := by
  obtain ⟨f, hf, htext⟩ := List.mem_filterMap.1 hs
  cases f with
  | text t =>
    obtain rfl := Option.some.inj htext
    exact h _ hf t List.mem_cons_self
  | _ => exact nomatch htext

theorem joined?_eq_some {t : String} (h : c.joined? k = some t) :
    t = k.separator.intercalate (c.texts k) := by
  rw [joined?] at h
  split at h
  · cases h
  · exact (Option.some.inj h).symm

theorem IsPlain.joined (h : c.IsPlain k) {t : String} (ht : c.joined? k = some t) :
    Text.IsPlain t := by
  -- The separators of the clauses are few enough to look at.
  have hsep : Text.IsPlain k.separator := by cases k <;> decide
  rw [joined?_eq_some ht]
  exact Text.isPlain_intercalate hsep fun s hs => h.of_mem_texts hs

theorem IsPlain.clauseText (h : c.IsPlain k) {lead : String} (hlead : Text.IsPlain lead) :
    Text.IsPlain (Builder.clauseText lead (c.joined? k)) := by
  cases ht : c.joined? k with
  | none => exact List.not_mem_nil
  | some t => exact Text.isPlain_append.2 ⟨hlead, h.joined ht⟩

end Clauses

/-! ## Calls -/

namespace Builder

theorem isPlain_aliased {name aliasName : String} (hname : Text.IsPlain name)
    (halias : Text.IsPlain aliasName) : Text.IsPlain (aliased name aliasName) :=
  not_mem_aliased (by decide) hname halias

private theorem isPlain_listPlaceholder {field : String} (h : Text.IsPlain field) (i : Nat) :
    Text.IsPlain (listPlaceholder field i) := by
  -- The stem of the name is the field with some characters replaced.
  have hstem : Text.IsPlain (listStem field) := by
    intro hc
    rw [listStem, String.toList_ofList] at hc
    obtain ⟨d, hd, hdc⟩ := List.mem_map.1 (List.mem_filter.1 hc).1
    split at hdc
    · exact absurd hdc (by decide)
    · exact h (hdc ▸ hd)
  -- The number behind it is made of digits.
  have hindex : Text.IsPlain (String.ofList (Numeral.decimal i)) := by
    intro hc
    rw [String.toList_ofList] at hc
    exact absurd (Numeral.isDigit_of_mem_decimal hc) (by decide)
  simp only [listPlaceholder, Text.isPlain_append]
  exact ⟨⟨⟨by decide, hstem⟩, by decide⟩, hindex⟩

private theorem isPlain_listCondition {field : String} (h : Text.IsPlain field) (count : Nat) :
    Text.IsPlain (listCondition field count) := by
  simp only [listCondition, Text.isPlain_append]
  refine ⟨⟨⟨h, by decide⟩, Text.isPlain_intercalate (by decide) fun s hs => ?_⟩, by decide⟩
  obtain ⟨i, -, rfl⟩ := List.mem_map.1 hs
  exact isPlain_listPlaceholder h i

private theorem isPlain_assignment {name : String} (h : Text.IsPlain name) :
    Text.IsPlain (assignment name) := by
  simp only [assignment, Text.isPlain_append]
  exact ⟨⟨⟨by decide, h⟩, by decide⟩, h⟩

/-- Whether the texts of a call have no semicolon.  The field of an assignment does not matter,
    since only a word of it is used. -/
def Call.IsPlain : Call → Prop
  | .table name | .insert name | .update name | .delete name => Text.IsPlain name
  | .tableAs name aliasName => Text.IsPlain name ∧ Text.IsPlain aliasName
  | .value field _ | .conditionIn field _ | .orderBy field _ => Text.IsPlain field
  | .valueLiteral field expr | .duplicate field expr | .setLiteral field expr =>
    Text.IsPlain field ∧ Text.IsPlain expr
  | .condition text _ => Text.IsPlain text
  | .join _ name aliasName on => Text.IsPlain name ∧ Text.IsPlain aliasName ∧ Text.IsPlain on
  | .select fields | .groupBy fields => ∀ f ∈ fields, Text.IsPlain f
  | .page _ _ _ totals => Text.IsPlain totals
  | .gated isOpen call => isOpen = true → call.IsPlain
  | .configure _ | .selectIdentity | .set .. | .clearSelect | .limit .. | .forUpdate => True

/-- A call without semicolons adds none. -/
theorem Call.IsPlain.of_mem_added {call : Call} (h : call.IsPlain) {mode : Mode}
    {p : Clause × Fragment} (hp : p ∈ call.added mode) : p.2.IsPlain := by
  -- But for gated calls, each call adds fragments of one shape.
  induction call with
  | configure config | selectIdentity | clearSelect => exact absurd hp List.not_mem_nil
  | table name | insert name | update name | delete name | condition text args =>
    rw [List.mem_singleton.1 hp]
    exact Fragment.isPlain_text.2 h
  | tableAs name aliasName =>
    rw [List.mem_singleton.1 hp]
    exact Fragment.isPlain_text.2 (isPlain_aliased h.1 h.2)
  | value field value =>
    rw [List.mem_singleton.1 hp]
    exact Fragment.isPlain_column.2
      ⟨h, Text.isPlain_append.2 ⟨by decide, Placeholder.isPlain_clean h⟩⟩
  | valueLiteral field expr =>
    rw [List.mem_singleton.1 hp]
    exact Fragment.isPlain_column.2 h
  | duplicate field expr =>
    rw [Call.added] at hp
    split at hp
    · rw [List.mem_singleton.1 hp]
      exact Fragment.isPlain_duplicate.2 h
    · exact absurd hp List.not_mem_nil
  | set field value =>
    obtain ⟨name, hname, rfl⟩ := List.mem_map.1 hp
    -- Only a word of the field is used, whatever else the field has.
    have hword := isWordText_of_parameterName? (Option.mem_toList.1 hname)
    exact Fragment.isPlain_text.2 (isPlain_assignment (Text.isPlain_of_isWordText hword))
  | setLiteral field expr =>
    rw [List.mem_singleton.1 hp, Fragment.isPlain_text]
    simp only [Text.isPlain_append]
    exact ⟨⟨h.1, by decide⟩, h.2⟩
  | conditionIn field values =>
    rw [List.mem_singleton.1 hp, Fragment.isPlain_text]
    split
    · decide
    · exact isPlain_listCondition h _
  | join kind name aliasName on =>
    -- The keywords of the joins have none.
    have hkeyword : Text.IsPlain kind.keyword := by cases kind <;> decide
    rw [List.mem_singleton.1 hp, Fragment.isPlain_text]
    simp only [Text.isPlain_append]
    exact ⟨⟨⟨⟨hkeyword, by decide⟩, isPlain_aliased h.1 h.2.1⟩, by decide⟩, h.2.2⟩
  | select fields | groupBy fields =>
    obtain ⟨field, hfield, rfl⟩ := List.mem_map.1 hp
    exact Fragment.isPlain_text.2 (h field hfield)
  | orderBy field direction =>
    have hdirection : Text.IsPlain direction.sql := by cases direction <;> decide
    rw [List.mem_singleton.1 hp, Fragment.isPlain_text]
    simp only [Text.isPlain_append]
    refine ⟨⟨?_, by decide⟩, hdirection⟩
    split
    · decide
    · exact h
  | limit offset rows | forUpdate =>
    rw [List.mem_singleton.1 hp]
    exact fun s hs => absurd hs List.not_mem_nil
  | page index size countRows totals =>
    rw [List.mem_singleton.1 hp]
    exact Fragment.isPlain_page.2 h
  | gated isOpen call ih =>
    cases isOpen with
    | true => exact ih (h rfl) hp
    | false => exact absurd hp List.not_mem_nil

/-- Calls without semicolons keep the clauses free of them. -/
theorem isPlain_clauses_run {b : Builder} (hb : ∀ k, b.clauses.IsPlain k) {calls : List Call}
    (hcalls : ∀ call ∈ calls, call.IsPlain) (k : Clause) : (b.run calls).clauses.IsPlain k := by
  induction calls generalizing b with
  | nil => exact hb k
  | cons call calls ih =>
    obtain ⟨hcall, hrest⟩ := List.forall_mem_cons.1 hcalls
    refine ih (fun k f hf => ?_) hrest
    -- A fragment behind the first call was there before or is added by it.
    rcases mem_get_clauses_apply hf with hf | hf
    · exact hb k f hf
    · exact hcall.of_mem_added hf

end Builder

end SqlAssembly
