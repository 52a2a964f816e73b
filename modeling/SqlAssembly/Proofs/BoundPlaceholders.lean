import SqlAssembly.Proofs.BoundNames
import SqlAssembly.Proofs.CallEffects
import SqlAssembly.Proofs.RenderedPlaceholders

/-! # Every placeholder is bound

A builder is *bound* if each placeholder in a fragment has a value.  Calls that promise to write
placeholders only where they bind them keep a builder bound, and a rendered statement has no other
placeholders than those of the fragments.

* `Builder.Call.IsCareful`      what is promised of a call
* `Builder.IsBound`             the invariant
* `Builder.IsBound.apply`       a careful call keeps it
* `Builder.contains_of_mem_tokens_build`   every placeholder of a statement is bound -/

namespace SqlAssembly

open Placeholder

/-! ## Names -/

/-- A word, perhaps between backticks. -/
def IsWordName (s : String) : Prop :=
  ∃ w, Text.isWordText w = true ∧ (s = w ∨ s = "`" ++ w ++ "`")

/-- Words with dots between them, each perhaps between backticks. -/
def IsDottedName (s : String) : Prop :=
  ∃ segments, segments ≠ [] ∧ (∀ x ∈ segments, IsWordName x) ∧ s = ".".intercalate segments

/-- The characters of a word name. -/
theorem IsWordName.mem {s : String} (h : IsWordName s) {c : Char} (hc : c ∈ s.toList) :
    c = Char.ofNat 0x60 ∨ Text.isWord c = true := by
  obtain ⟨w, hw, rfl | rfl⟩ := h
  · exact .inr (isWord_of_mem hw hc)
  · -- Backticks add no other character than themselves.
    have htick : "`".toList = [Char.ofNat 0x60] := by decide
    rw [String.toList_append, String.toList_append, htick] at hc
    simp only [List.mem_append, List.mem_singleton] at hc
    rcases hc with (hc | hc) | hc
    · exact .inl hc
    · exact .inr (isWord_of_mem hw hc)
    · exact .inl hc

/-- The characters of a dotted name. -/
theorem IsDottedName.mem {s : String} (h : IsDottedName s) {c : Char} (hc : c ∈ s.toList) :
    c = '.' ∨ c = Char.ofNat 0x60 ∨ Text.isWord c = true := by
  obtain ⟨segments, -, hsegments, rfl⟩ := h
  induction segments with
  | nil => exact absurd hc List.not_mem_nil
  | cons x xs ih =>
    have hx := hsegments x List.mem_cons_self
    have hxs := fun y hy => hsegments y (List.mem_cons_of_mem x hy)
    -- A dot stands only between two segments.
    cases xs with
    | nil =>
      rw [String.intercalate_singleton] at hc
      exact .inr (hx.mem hc)
    | cons y ys =>
      rw [String.intercalate_cons_cons, String.toList_append, String.toList_append,
        List.mem_append, List.mem_append] at hc
      rcases hc with (hc | hc) | hc
      · exact .inr (hx.mem hc)
      · exact .inl (List.mem_singleton.1 hc)
      · exact ih hxs hc

theorem IsDottedName.not_mem_at {s : String} (h : IsDottedName s) : '@' ∉ s.toList := by
  intro hat
  rcases h.mem hat with hc | hc | hc
  · exact absurd hc (by decide)
  · exact absurd hc (by decide)
  · rw [isWord_at] at hc
    exact Bool.false_ne_true hc

/-- A word name is a dotted name of one segment. -/
theorem IsWordName.isDottedName {s : String} (h : IsWordName s) : IsDottedName s := by
  refine ⟨[s], List.cons_ne_nil _ _, ?_, String.intercalate_singleton.symm⟩
  intro x hx
  rwa [List.mem_singleton.1 hx]

theorem IsWordName.not_mem_at {s : String} (h : IsWordName s) : '@' ∉ s.toList :=
  h.isDottedName.not_mem_at

/-- The clean form of a word name is a word. -/
theorem IsWordName.isWordText_clean {s : String} (h : IsWordName s) :
    Text.isWordText (clean s) = true := by
  obtain ⟨w, hw, rfl | rfl⟩ := h
  · rwa [clean_of_isWordText hw]
  · rwa [clean_backticked hw]

namespace Builder

/-! ## The names that calls bind -/

/-- The name that an assignment binds is a word. -/
theorem isWordText_of_parameterName? {field name : String}
    (h : parameterName? field = some name) : Text.isWordText name = true := by
  unfold parameterName? at h
  simp only [Option.ite_none_right_eq_some] at h
  obtain ⟨hword, hname⟩ := h
  rwa [← Option.some.inj hname]

/-- A digit is a word character. -/
private theorem isWord_of_isDigit {c : Char} (h : Numeral.isDigit c = true) :
    Text.isWord c = true := by
  rw [Numeral.isDigit, Bool.and_eq_true, decide_eq_true_eq, decide_eq_true_eq] at h
  -- The digits of numerals are those of ASCII.
  have hdigit : c.isDigit = true := by
    rw [Char.isDigit, Bool.and_eq_true, decide_eq_true_eq, decide_eq_true_eq]
    exact ⟨UInt32.le_iff_toNat_le.2 h.1, UInt32.le_iff_toNat_le.2 h.2⟩
  have halphanum : c.isAlphanum = true := by
    rw [Char.isAlphanum, hdigit, Bool.or_true]
  exact Text.isWord_of_isAlphanum halphanum (by omega)

/-- The stem of a dotted name has word characters only. -/
private theorem isWord_of_mem_listStem {field : String} (h : IsDottedName field) {c : Char}
    (hc : c ∈ (listStem field).toList) : Text.isWord c = true := by
  rw [listStem, String.toList_ofList, List.mem_filter, List.mem_map, decide_eq_true_eq] at hc
  -- In a stem the dots have become low lines, and the backticks are gone.
  obtain ⟨⟨d, hd, rfl⟩, htick⟩ := hc
  rcases h.mem hd with rfl | rfl | hword
  · decide
  · exact absurd rfl htick
  · split
    · decide
    · exact hword

/-- The name of the parameter of an element of a list is a word. -/
theorem isWordText_listName {field : String} (h : IsDottedName field) (i : Nat) :
    Text.isWordText (listStem field ++ ("_IN_" ++ String.ofList (Numeral.decimal i))) = true := by
  rw [Text.isWordText, Bool.and_eq_true, Bool.not_eq_true', List.isEmpty_eq_false_iff,
    List.all_eq_true]
  simp only [String.toList_append, String.toList_ofList]
  constructor
  · exact List.append_ne_nil_of_right_ne_nil _ (List.append_ne_nil_of_left_ne_nil (by decide) _)
  · -- the stem, the mark of a list and the digits of the number
    intro c hc
    simp only [List.mem_append] at hc
    rcases hc with hc | hc | hc
    · exact isWord_of_mem_listStem h hc
    · have hall : "_IN_".toList.all Text.isWord = true := by decide
      exact List.all_eq_true.1 hall c hc
    · exact isWord_of_isDigit (Numeral.isDigit_of_mem_decimal hc)

/-- The placeholders of a condition on a list are those of its elements. -/
theorem tokens_listCondition {field : String} (h : IsDottedName field) (count : Nat) :
    tokens (listCondition field count) = (List.range count).map (listPlaceholder field) := by
  have hone : ∀ i, tokens (listPlaceholder field i) = [listPlaceholder field i] := by
    intro i
    have hname : listPlaceholder field i =
        "@" ++ (listStem field ++ ("_IN_" ++ String.ofList (Numeral.decimal i))) := by
      unfold listPlaceholder
      simp only [String.append_assoc]
    rw [hname]
    exact tokens_at_word (isWordText_listName h i)
  unfold listCondition
  -- The brackets and commas around the placeholders are no word characters.
  rw [tokens_append_of_isGlue (by decide), tokens_glue (by decide),
    tokens_of_not_mem h.not_mem_at, List.nil_append, tokens_intercalate (by decide),
    List.flatMap_map]
  simp only [hone]
  exact List.map_eq_flatMap.symm

/-! ## What is promised of calls -/

/-- Whether placeholders stand only where the call binds a value to them: in an assignment or the
    column of a value under the column's own name, in a condition with as many arguments as
    placeholders, and in a condition on a list.  No argument is an object. -/
def Call.IsCareful : Call → Prop
  | .configure _ | .selectIdentity | .clearSelect | .limit .. | .forUpdate => True
  | .table name => '@' ∉ name.toList
  | .tableAs name aliasName => '@' ∉ name.toList ∧ '@' ∉ aliasName.toList
  | .insert name | .update name | .delete name => '@' ∉ name.toList
  | .value field _ => IsWordName field
  | .valueLiteral field expr | .duplicate field expr | .setLiteral field expr =>
    '@' ∉ field.toList ∧ '@' ∉ expr.toList
  | .set .. => True
  | .condition text args =>
    args.length = (tokens text).length ∧ ∀ a ∈ args, a.isObject = false
  | .conditionIn field values => IsDottedName field ∧ ∀ v ∈ values, v.isObject = false
  | .join _ name aliasName on =>
    '@' ∉ name.toList ∧ '@' ∉ aliasName.toList ∧ '@' ∉ on.toList
  | .select fields | .groupBy fields => ∀ f ∈ fields, '@' ∉ f.toList
  | .orderBy field _ => '@' ∉ field.toList
  | .page _ _ _ totals => '@' ∉ totals.toList
  | .gated isOpen call => isOpen = true → call.IsCareful

/-! ## The invariant -/

/-- Whether each placeholder in a fragment has a value. -/
def IsBound (b : Builder) : Prop := ∀ t, b.Mentions t → b.params.contains t = true

theorem isBound_empty : empty.IsBound := by
  rintro t ⟨k, f, hf, -⟩
  exact absurd hf List.not_mem_nil

namespace IsBound

variable {b : Builder}

/-- Fragments may go and names may come. -/
theorem mono (h : b.IsBound) {c : Builder}
    (hclauses : ∀ k, ∀ f ∈ c.clauses.get k,
      f ∈ b.clauses.get k ∨ ∀ t ∈ f.tokens, c.params.contains t = true)
    (hparams : ∀ t, b.params.contains t = true → c.params.contains t = true) : c.IsBound := by
  rintro t ⟨k, f, hf, ht⟩
  -- A fragment was there before, or comes with names for all its placeholders.
  rcases hclauses k f hf with hf | hf
  · exact hparams t (h t ⟨k, f, hf, ht⟩)
  · exact hf t ht

private theorem setParams (h : b.IsBound) {p : Params}
    (hp : ∀ t, b.params.contains t = true → p.contains t = true) :
    { b with params := p }.IsBound :=
  h.mono (fun _ _ hf => .inl hf) hp

theorem bind (h : b.IsBound) (name : String) (value : Value) : (b.bind name value).IsBound :=
  h.setParams fun _ ht => Params.contains_add.2 (.inr ht)

/-- A clause may get other fragments if their placeholders are bound. -/
private theorem setClause (h : b.IsBound) (k : Clause) {fs : List Fragment}
    (hfs : ∀ f ∈ fs, f ∈ b.clauses.get k ∨ ∀ t ∈ f.tokens, b.params.contains t = true) :
    { b with clauses := b.clauses.set k fs }.IsBound := by
  refine h.mono (fun k' f hf => ?_) fun _ ht => ht
  by_cases hk : k' = k
  · subst hk
    rw [Clauses.get_set_self] at hf
    exact hfs f hf
  · rw [Clauses.get_set_of_ne _ _ hk] at hf
    exact .inl hf

theorem addFragment (h : b.IsBound) (k : Clause) {f : Fragment}
    (hf : ∀ t ∈ f.tokens, b.params.contains t = true) : (b.addFragment k f).IsBound := by
  refine h.setClause k fun g hg => ?_
  rcases List.mem_append.1 hg with hg | hg
  · exact .inl hg
  · obtain rfl := List.mem_singleton.1 hg
    exact .inr hf

/-- A fragment without placeholders may always be added. -/
private theorem addPlain (h : b.IsBound) (k : Clause) {f : Fragment} (hf : f.tokens = []) :
    (b.addFragment k f).IsBound := by
  refine h.addFragment k fun t ht => ?_
  rw [hf] at ht
  exact absurd ht List.not_mem_nil

theorem addTexts (h : b.IsBound) (k : Clause) {texts : List String}
    (htexts : ∀ s ∈ texts, '@' ∉ s.toList) : (b.addTexts k texts).IsBound := by
  refine h.setClause k fun f hf => ?_
  rcases List.mem_append.1 hf with hf | hf
  · exact .inl hf
  · obtain ⟨s, hs, rfl⟩ := List.mem_map.1 hf
    refine .inr fun t ht => ?_
    rw [Fragment.tokens, tokens_of_not_mem (htexts s hs)] at ht
    exact absurd ht List.not_mem_nil

private theorem replacePlain (h : b.IsBound) (k : Clause) {f : Fragment} (hf : f.tokens = []) :
    (b.replaceFragment k f).IsBound := by
  refine h.setClause k fun g hg => .inr fun t ht => ?_
  rw [List.mem_singleton.1 hg, hf] at ht
  exact absurd ht List.not_mem_nil

/-- Adding a condition binds its arguments first, so that the fragment finds its placeholders
    bound. -/
theorem addCondition (h : b.IsBound) {text : String} {args : List Value}
    (htext : ∀ t ∈ tokens text, (bindArgs b.params text args).contains t = true) :
    (b.addCondition text args).IsBound :=
  (h.setParams fun _ ht => contains_bindArgs_of_contains ht).addFragment .condition htext

end IsBound

theorem not_mem_aliased {c : Char} (hc : c ≠ ' ') {name aliasName : String}
    (hname : c ∉ name.toList) (halias : c ∉ aliasName.toList) :
    c ∉ (aliased name aliasName).toList := by
  rw [aliased]
  split
  · exact hname
  · have hblank : c ∉ " ".toList := fun h => hc (List.mem_singleton.1 h)
    simp only [String.toList_append, List.mem_append, not_or]
    exact ⟨⟨hname, hblank⟩, halias⟩

private theorem tokens_joinText {kind : JoinType} {name aliasName on : String}
    (hname : '@' ∉ name.toList) (halias : '@' ∉ aliasName.toList) (hon : '@' ∉ on.toList) :
    tokens (kind.keyword ++ " " ++ aliased name aliasName ++ " ON " ++ on) = [] := by
  have hkeyword : '@' ∉ kind.keyword.toList := by cases kind <;> decide
  rw [tokens_glue (by decide), tokens_glue (by decide), tokens_of_not_mem hkeyword,
    tokens_of_not_mem (not_mem_aliased (by decide) hname halias), tokens_of_not_mem hon]
  rfl

private theorem tokens_orderText {field : String} (hfield : '@' ∉ field.toList)
    (direction : Direction) :
    tokens ((if field = "" then "1" else field) ++ " " ++ direction.sql) = [] := by
  have hdirection : '@' ∉ direction.sql.toList := by cases direction <;> decide
  rw [tokens_glue (by decide), tokens_of_not_mem hdirection]
  split
  · decide
  · rw [tokens_of_not_mem hfield]
    rfl

/-- An assignment has the placeholder of its name only. -/
theorem tokens_assignment {name : String} (h : Text.isWordText name = true) :
    tokens (assignment name) = ["@" ++ name] := by
  have hcolumn : '@' ∉ ("`" ++ name ++ "`=").toList := by
    simp only [String.toList_append, List.mem_append, not_or]
    exact ⟨⟨by decide, not_mem_of_isWordText h isWord_at⟩, by decide⟩
  have hsplit : assignment name = "`" ++ name ++ "`=" ++ ("@" ++ name) := by
    have hlit : "`=@" = "`=" ++ "@" := by decide
    unfold assignment
    rw [hlit]
    simp only [String.append_assoc, -String.reduceAppend]
  rw [hsplit, tokens_append_of_not_mem hcolumn, tokens_at_word h]

/-- A careful call keeps a builder bound. -/
theorem IsBound.apply {b : Builder} (h : b.IsBound) {call : Call} (hcall : call.IsCareful) :
    (b.apply call).IsBound := by
  -- A call that binds a value does so before its fragment counts; the others write no placeholder.
  induction call with
  | configure config => exact h.mono (fun _ _ hf => .inl hf) fun _ ht => ht
  | table name => exact h.addPlain .table (tokens_of_not_mem hcall)
  | tableAs name aliasName =>
    exact h.addPlain .table (tokens_of_not_mem (not_mem_aliased (by decide) hcall.1 hcall.2))
  | insert name | update name | delete name =>
    exact (h.mono (fun _ _ hf => .inl hf) fun _ ht => ht).addPlain .table
      (tokens_of_not_mem hcall)
  | value field value =>
    -- The column has no placeholder but that of its own clean name.
    have hname := hcall.isWordText_clean
    refine (h.bind (clean field) value).addFragment .insertValue fun t ht => ?_
    rw [Fragment.tokens, tokens_of_not_mem hcall.not_mem_at, List.nil_append,
      tokens_at_word hname, List.mem_singleton] at ht
    rw [ht]
    exact Params.contains_add.2 (.inl (clean_at _))
  | valueLiteral field expr =>
    refine h.addPlain .insertValue ?_
    rw [Fragment.tokens, tokens_of_not_mem hcall.1, tokens_of_not_mem hcall.2]
    rfl
  | duplicate field expr =>
    rw [apply_duplicate]
    split
    · refine h.addPlain .duplicateUpdate ?_
      rw [Fragment.tokens, tokens_of_not_mem hcall.1, tokens_of_not_mem hcall.2]
      rfl
    · exact h
  | selectIdentity =>
    rw [apply_selectIdentity]
    split
    · exact h.mono (fun _ _ hf => .inl hf) fun _ ht => ht
    · exact h
  | set field value =>
    rw [apply_set]
    split
    · rename_i name hname
      -- The name is one word, and so is its placeholder.
      have hword := isWordText_of_parameterName? hname
      refine (h.bind name value).addFragment .updateValue fun t ht => ?_
      rw [Fragment.tokens, tokens_assignment hword, List.mem_singleton] at ht
      rw [ht]
      exact Params.contains_add.2 (.inl (clean_at name))
    · exact h
  | setLiteral field expr =>
    refine h.addPlain .updateValue ?_
    rw [Fragment.tokens, tokens_glue (by decide), tokens_of_not_mem hcall.1,
      tokens_of_not_mem hcall.2]
    rfl
  | condition text args =>
    exact h.addCondition fun t ht => contains_bindArgs_of_mem_tokens hcall.1 hcall.2 ht
  | conditionIn field values =>
    rw [apply_conditionIn]
    split
    · refine h.addCondition fun t ht => ?_
      -- Of no values nothing is bound, and nothing need be.
      have hnever : tokens neverCondition = [] := by decide
      rw [hnever] at ht
      exact absurd ht List.not_mem_nil
    · refine h.addCondition fun t ht => contains_bindArgs_of_mem_tokens ?_ hcall.2 ht
      -- There is a placeholder for each value.
      rw [tokens_listCondition hcall.1, List.length_map, List.length_range]
  | join kind name aliasName on =>
    exact h.addPlain .join (tokens_joinText hcall.1 hcall.2.1 hcall.2.2)
  | select fields => exact h.addTexts .select hcall
  | clearSelect => exact h.setClause .select fun f hf => absurd hf List.not_mem_nil
  | groupBy fields => exact h.addTexts .groupBy hcall
  | orderBy field direction => exact h.addPlain .orderBy (tokens_orderText hcall direction)
  | limit offset rows => exact h.replacePlain .limit rfl
  | forUpdate => exact h.replacePlain .forUpdate rfl
  | page index size countRows totals => exact h.replacePlain .page (tokens_of_not_mem hcall)
  | gated isOpen call ih =>
    rw [apply_gated]
    split
    · rename_i hopen
      exact ih (hcall hopen)
    · exact h

/-- Careful calls keep a builder bound. -/
theorem IsBound.run {b : Builder} (h : b.IsBound) {calls : List Call}
    (hcalls : ∀ c ∈ calls, c.IsCareful) : (b.run calls).IsBound := by
  -- What the first call has kept, the others start from.
  induction calls generalizing b with
  | nil => exact h
  | cons c cs ih =>
    exact ih (h.apply (hcalls c List.mem_cons_self)) fun d hd =>
      hcalls d (List.mem_cons_of_mem c hd)

/-- After careful calls, every placeholder of a built statement is bound, whatever the kind of
    statement and whether or not a count query repeats the placeholders of the rows. -/
theorem contains_of_mem_tokens_build {calls : List Call} (hcalls : ∀ c ∈ calls, c.IsCareful)
    {s : Statement} (hbuild : (empty.run calls).build = .ok s) :
    ∀ t ∈ tokens s.sql, s.params.contains t = true := by
  intro t ht
  have hbound : (empty.run calls).IsBound := isBound_empty.run hcalls
  -- A statement that is built has the rendered text, and the parameters as they are.
  cases hrender : (empty.run calls).render with
  | error e =>
    rw [build, hrender] at hbuild
    cases hbuild
  | ok sql =>
    rw [build, hrender] at hbuild
    obtain rfl := Except.ok.inj hbuild
    exact hbound t (mem_tokens_render hrender ht)

/-- A counted page of rows with conditions of both kinds. -/
theorem contains_of_mem_tokens_build_page :
    let calls : List Call :=
      [.tableAs "users" "u", .condition "u.age > @age AND u.name = @name" [.null, .text "bob"],
        .conditionIn "u.`role`" [.text "a", .text "b"], .orderBy "u.id" .descending,
        .page (IntWidth.int32.clamp 2) (IntWidth.int32.clamp 20) true "MAX(u.age) AS top"]
    (∀ c ∈ calls, c.IsCareful) ∧
      ∃ s, (empty.run calls).build = .ok s ∧
        ∀ t ∈ tokens s.sql, s.params.contains t = true := by
  intro calls
  have hrole : IsDottedName "u.`role`" := by
    refine ⟨["u", "`role`"], List.cons_ne_nil _ _, ?_, by decide⟩
    intro x hx
    simp only [List.mem_cons, List.not_mem_nil, or_false] at hx
    rcases hx with rfl | rfl
    · exact ⟨"u", by decide, .inl rfl⟩
    · exact ⟨"role", by decide, .inr (by decide)⟩
  have hcalls : ∀ c ∈ calls, c.IsCareful := by
    intro c hc
    simp only [calls, List.mem_cons, List.not_mem_nil, or_false] at hc
    rcases hc with rfl | rfl | rfl | rfl | rfl
    · exact ⟨by decide, by decide⟩
    · exact ⟨by decide, by simp [Value.isObject]⟩
    · exact ⟨hrole, by simp [Value.isObject]⟩
    · exact (by decide : '@' ∉ "u.id".toList)
    · exact (by decide : '@' ∉ "MAX(u.age) AS top".toList)
  exact ⟨hcalls, _, rfl, contains_of_mem_tokens_build hcalls rfl⟩

end Builder

end SqlAssembly
