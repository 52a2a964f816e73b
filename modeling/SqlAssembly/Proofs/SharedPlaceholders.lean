import Mathlib.Data.List.Forall2
import Mathlib.Data.List.Pairwise
import SqlAssembly.Proofs.PredicateRuns

/-! # When predicates disturb each other

All predicates of a statement bind their parameters in one place: a comparison the name of its
column, a pair of bounds this name followed by 1 and by 2.  A column may itself be called like
another one followed by 1 or 2.  Then a comparison and a pair of bounds share a parameter, and what
is bound last is what both see.  Nothing else can go wrong between different columns.

* `Query.Resolves`             whether the placeholders of a run stand for their own values
* `Query.resolves_iff_agree`   they do unless one parameter was bound to two values
* `Query.Collides`             whether a comparison and a pair of bounds share a parameter
* `Query.resolves_iff`         on different columns only such a pair is to blame -/

namespace SqlAssembly.Query

open Placeholder

variable {q : Query} {call : Call} {calls : List Call}

/-! ## Placeholders at the end of a run -/

/-- Whether at the end of a run each placeholder of a condition stands for the value that the call
    for this condition bound to it. -/
def Resolves (q : Query) (calls : List Call) : Prop :=
  ∀ before call after, calls = before ++ call :: after → ∀ text args,
    (q.run before).outcome call = .emit (.condition text args) →
      List.Forall₂ (fun token value => (q.run calls).builder.params.get? token = some value)
        (tokens text) args

/-- The calls in front of a predicate do not matter for its condition. -/
theorem resolves_iff_forall_mem (hcalls : ∀ call ∈ calls, call.IsPredicate) :
    q.Resolves calls ↔
      ∀ call ∈ calls, ∀ text args, q.outcome call = .emit (.condition text args) →
        List.Forall₂ (fun token value => (q.run calls).builder.params.get? token = some value)
          (tokens text) args := by
  constructor
  · intro h call hcall text args houtcome
    -- A predicate of the run has some calls in front and some behind it.
    obtain ⟨before, after, rfl⟩ := List.append_of_mem hcall
    refine h before call after rfl text args ?_
    rw [(isAlike_run fun c hc => hcalls c (List.mem_append_left _ hc)).outcome_eq
      (hcalls call hcall)]
    exact houtcome
  · rintro h before call after rfl text args houtcome
    have hcall : call ∈ before ++ call :: after :=
      List.mem_append_right before List.mem_cons_self
    rw [(isAlike_run fun c hc => hcalls c (List.mem_append_left _ hc)).outcome_eq
      (hcalls call hcall)] at houtcome
    exact h call hcall text args houtcome

/-- A predicate that binds values is emitted. -/
private theorem exists_condition_of_arguments (hcall : call.IsPredicate)
    (hargs : q.arguments call ≠ []) :
    ∃ f text, call.field? = some f ∧ q.outcome call = .emit (.condition text (q.arguments call)) ∧
      tokens text = tokens (q.fieldSql f) ++ call.placeholders ∧
      (q.arguments call).length = call.placeholders.length := by
  cases houtcome : q.outcome call with
  | emit emitted =>
    obtain ⟨f, text, args, hfield, rfl, htokens, hlength, -⟩ :=
      exists_condition_of_outcome hcall houtcome
    rw [arguments_eq houtcome]
    exact ⟨f, text, hfield, rfl, htokens, hlength⟩
  | skip | dropOrder | refuse =>
    rw [arguments, houtcome] at hargs
    exact absurd rfl hargs

/-- If the placeholders stand for the values of their calls, none of them comes with a column. -/
private theorem isClear_of_resolves (hcalls : ∀ call ∈ calls, call.IsPredicate)
    (h : q.Resolves calls) : ∀ call ∈ calls, q.IsClear call := by
  intro call hcall f hfield hargs
  obtain ⟨f', text, hfield', houtcome, htokens, hlength⟩ :=
    exists_condition_of_arguments (hcalls call hcall) hargs
  obtain rfl : f = f' := Option.some.inj (hfield.symm.trans hfield')
  have hvalues := ((resolves_iff_forall_mem hcalls).1 h call hcall text _ houtcome).length_eq
  -- A placeholder of the column would have no value, for the others take all of them.
  rw [htokens, List.length_append, hlength] at hvalues
  exact List.length_eq_zero_iff.1 (by omega)

private theorem resolves_iff_forall_bindings (hcalls : ∀ call ∈ calls, call.IsPredicate)
    (hclear : ∀ call ∈ calls, q.IsClear call) :
    q.Resolves calls ↔
      ∀ b ∈ calls.flatMap q.bindings, (q.run calls).builder.params.get? b.1 = some b.2 := by
  rw [resolves_iff_forall_mem hcalls]
  constructor
  · rintro h ⟨token, value⟩ hb
    -- A binding belongs to a predicate that is emitted, and stands in its condition.
    obtain ⟨call, hcall, hmem⟩ := List.mem_flatMap.1 hb
    have hargs : q.arguments call ≠ [] := List.ne_nil_of_mem (List.of_mem_zip hmem).2
    obtain ⟨f, text, hfield, houtcome, htokens, -⟩ :=
      exists_condition_of_arguments (hcalls call hcall) hargs
    have hvalues := h call hcall text _ houtcome
    rw [htokens, hclear call hcall f hfield hargs, List.nil_append, List.forall₂_iff_zip]
      at hvalues
    exact hvalues.2 hmem
  · intro h call hcall text args houtcome
    obtain ⟨f, text', args', hfield, heq, htokens, hlength, -⟩ :=
      exists_condition_of_outcome (hcalls call hcall) houtcome
    obtain ⟨rfl, rfl⟩ := Builder.Call.condition.inj heq
    have hargs : q.arguments call = args := arguments_eq houtcome
    -- A condition that is emitted has values, so its column has no placeholder.
    have hne : q.arguments call ≠ [] := by
      rw [hargs, ← List.length_pos_iff, hlength, List.length_pos_iff]
      exact placeholders_ne_nil (hcalls call hcall)
    rw [htokens, hclear call hcall f hfield hne, List.nil_append, List.forall₂_iff_zip]
    refine ⟨hlength.symm, fun {token value} hmem => h (token, value) ?_⟩
    rw [← hargs] at hmem
    exact List.mem_flatMap.2 ⟨call, hcall, hmem⟩

/-- The placeholders of a predicate are words behind an at sign. -/
private theorem clean_of_mem_bindings (hcall : call.IsPredicate) {b : String × Value}
    (hb : b ∈ q.bindings call) : "@" ++ clean b.1 = b.1 := by
  -- Cleaning a placeholder takes off just the at sign, as a word has no backticks.
  have hclean : ∀ {w : String}, Text.isWordText w = true → "@" ++ clean ("@" ++ w) = "@" ++ w :=
    fun hw => by rw [clean_at, clean_of_isWordText hw]
  have hmem : b.1 ∈ call.placeholders := (List.of_mem_zip hb).1
  cases call with
  | when f accept operator =>
    rw [List.mem_singleton.1 hmem, hclean hcall.1]
  | between f accept | betweenValues f low high =>
    simp only [Call.placeholders, List.mem_cons, List.not_mem_nil, or_false] at hmem
    rcases hmem with hmem | hmem
    · rw [hmem, hclean (isWordText_append hcall.1 (by decide))]
    · rw [hmem, hclean (isWordText_append hcall.1 (by decide))]
  | _ => exact hcall.elim

/-- The placeholders stand for the values of their calls unless one was bound to two values. -/
theorem resolves_iff_agree (hsingle : q.builder.params.IsSingle)
    (hcalls : ∀ call ∈ calls, call.IsPredicate) (hclear : ∀ call ∈ calls, q.IsClear call) :
    q.Resolves calls ↔
      ∀ b ∈ calls.flatMap q.bindings, ∀ b' ∈ calls.flatMap q.bindings,
        b.1 = b'.1 → b.2 = b'.2 := by
  -- Parameters are bound by their clean names, so these have to tell placeholders apart.
  have hclean : ∀ b ∈ calls.flatMap q.bindings, "@" ++ clean b.1 = b.1 := by
    intro b hb
    obtain ⟨call, hcall, hmem⟩ := List.mem_flatMap.1 hb
    exact clean_of_mem_bindings (hcalls call hcall) hmem
  rw [resolves_iff_forall_bindings hcalls hclear, params_run hcalls hclear]
  constructor
  · intro h b hb b' hb' hname
    -- Both values stand under the same name at the end.
    have hget := h b hb
    rw [hname, h b' hb'] at hget
    exact (Option.some.inj hget).symm
  · intro h b hb
    -- The last value that is bound to the name is the same as this one.
    refine hsingle.get?_addAll hb fun b' hb' hname => h b' hb' b hb ?_
    rw [← hclean b' hb', hname, hclean b hb]

/-! ## Different columns -/

/-- Whether a comparison and a pair of bounds bind one parameter to two values: the column of the
    first is called like that of the second followed by 1 or by 2. -/
def Collides (q : Query) (compared bounded : Call) : Prop :=
  ∃ f g v low high, compared.comparedField? = some f ∧ bounded.boundedField? = some g ∧
    q.arguments compared = [v] ∧ q.arguments bounded = [low, high] ∧
    (f.column = g.column ++ "1" ∧ v ≠ low ∨ f.column = g.column ++ "2" ∧ v ≠ high)

private theorem bindings_of_compared {f : Field} {v : Value} (hfield : call.comparedField? = some f)
    (hargs : q.arguments call = [v]) : q.bindings call = [("@" ++ f.column, v)] := by
  cases call with
  | when f' accept operator =>
    obtain rfl := Option.some.inj hfield
    rw [bindings, hargs]
    rfl
  | _ => cases hfield

private theorem bindings_of_bounded {f : Field} {low high : Value}
    (hfield : call.boundedField? = some f) (hargs : q.arguments call = [low, high]) :
    q.bindings call = [("@" ++ (f.column ++ "1"), low), ("@" ++ (f.column ++ "2"), high)] := by
  cases call with
  | between f' accept | betweenValues f' low' high' =>
    obtain rfl := Option.some.inj hfield
    rw [bindings, hargs]
    rfl
  | _ => cases hfield

/-- A predicate binds the one parameter of a comparison or the two of a pair of bounds. -/
private theorem exists_of_mem_bindings (hcall : call.IsPredicate) {b : String × Value}
    (hb : b ∈ q.bindings call) :
    (∃ f v, call.comparedField? = some f ∧ q.arguments call = [v] ∧ b = ("@" ++ f.column, v)) ∨
      ∃ f low high, call.boundedField? = some f ∧ q.arguments call = [low, high] ∧
        (b = ("@" ++ (f.column ++ "1"), low) ∨ b = ("@" ++ (f.column ++ "2"), high)) := by
  have hne : q.arguments call ≠ [] := List.ne_nil_of_mem (List.of_mem_zip hb).2
  obtain ⟨-, -, -, -, -, hlength⟩ := exists_condition_of_arguments hcall hne
  -- Both forms of bounds have two values, so they are taken together.
  have hbounded : ∀ f, call.boundedField? = some f → (q.arguments call).length = 2 →
      ∃ f low high, call.boundedField? = some f ∧ q.arguments call = [low, high] ∧
        (b = ("@" ++ (f.column ++ "1"), low) ∨ b = ("@" ++ (f.column ++ "2"), high)) := by
    intro f hfield htwo
    obtain ⟨low, high, hargs⟩ := List.length_eq_two.1 htwo
    rw [bindings_of_bounded hfield hargs] at hb
    simp only [List.mem_cons, List.not_mem_nil, or_false] at hb
    exact ⟨f, low, high, hfield, hargs, hb⟩
  cases call with
  | when f accept operator =>
    obtain ⟨v, hargs⟩ := List.length_eq_one_iff.1 hlength
    rw [bindings_of_compared rfl hargs] at hb
    exact .inl ⟨f, v, rfl, hargs, List.mem_singleton.1 hb⟩
  | between f accept => exact .inr (hbounded f rfl hlength)
  | betweenValues f low high => exact .inr (hbounded f rfl hlength)
  | _ => exact hcall.elim

private theorem column?_of_compared {f : Field} (hfield : call.comparedField? = some f) :
    call.column? = some f.column := by
  rw [Call.column?, Call.field?, hfield]
  rfl

private theorem column?_of_bounded {f : Field} (hfield : call.boundedField? = some f) :
    call.column? = some f.column := by
  cases call with
  | between f' accept | betweenValues f' low high =>
    obtain rfl := Option.some.inj hfield
    rfl
  | _ => cases hfield

/-- Among calls about different columns there is one at most about each. -/
private theorem eq_of_column?_eq (hcolumns : calls.Pairwise fun a b => a.column? ≠ b.column?)
    {call' : Call} (hcall : call ∈ calls) (hcall' : call' ∈ calls)
    (h : call.column? = call'.column?) : call = call' := by
  have hsymm : Std.Symm fun a b : Call => a.column? ≠ b.column? := ⟨fun _ _ hne => hne.symm⟩
  by_contra hne
  exact hcolumns.forall hcall hcall' hne h

/-- A name followed by 1 is no name followed by 2. -/
theorem append_one_ne_append_two (s s' : String) : s ++ "1" ≠ s' ++ "2" := by
  intro h
  -- They differ in their last character.
  have hlast := congrArg (fun t : String => t.toList.getLast?) h
  simp only [String.toList_append] at hlast
  rw [show "1".toList = ['1'] from rfl, show "2".toList = ['2'] from rfl, List.getLast?_concat,
    List.getLast?_concat] at hlast
  exact absurd hlast (by decide)

/-- A comparison and a pair of bounds that do not collide bind one value to a name they share. -/
private theorem eq_of_not_collides {compared bounded : Call} (h : ¬ q.Collides compared bounded)
    {f g : Field} {v low high : Value} (hf : compared.comparedField? = some f)
    (hg : bounded.boundedField? = some g) (hv : q.arguments compared = [v])
    (hargs : q.arguments bounded = [low, high]) {b : String × Value}
    (hb : b = ("@" ++ (g.column ++ "1"), low) ∨ b = ("@" ++ (g.column ++ "2"), high))
    (hname : "@" ++ f.column = b.1) : v = b.2 := by
  by_contra hne
  refine h ⟨f, g, v, low, high, hf, hg, hv, hargs, ?_⟩
  rcases hb with rfl | rfl
  · exact .inl ⟨(String.append_right_inj "@").1 hname, hne⟩
  · exact .inr ⟨(String.append_right_inj "@").1 hname, hne⟩

/-- Two pairs of bounds, equal if about the same column, bind one value to a name they share. -/
private theorem eq_of_bounds {f g : Field} {low high low' high' : Value}
    (hsame : f.column = g.column → [low, high] = [low', high']) {b b' : String × Value}
    (hb : b = ("@" ++ (f.column ++ "1"), low) ∨ b = ("@" ++ (f.column ++ "2"), high))
    (hb' : b' = ("@" ++ (g.column ++ "1"), low') ∨ b' = ("@" ++ (g.column ++ "2"), high'))
    (hname : b.1 = b'.1) : b.2 = b'.2 := by
  -- The parameter of a lower bound is never that of an upper one.
  rcases hb with rfl | rfl
  · rcases hb' with rfl | rfl
    · have hcolumn := (String.append_left_inj "1").1 ((String.append_right_inj "@").1 hname)
      exact (List.cons.inj (hsame hcolumn)).1
    · exact absurd ((String.append_right_inj "@").1 hname) (append_one_ne_append_two _ _)
  · rcases hb' with rfl | rfl
    · exact absurd ((String.append_right_inj "@").1 hname).symm (append_one_ne_append_two _ _)
    · have hcolumn := (String.append_left_inj "2").1 ((String.append_right_inj "@").1 hname)
      exact (List.cons.inj (List.cons.inj (hsame hcolumn)).2).1

/-- On different columns, only a comparison and a pair of bounds can bind one parameter to two
    values. -/
theorem agree_iff_not_collides (hcalls : ∀ call ∈ calls, call.IsPredicate)
    (hcolumns : calls.Pairwise fun a b => a.column? ≠ b.column?) :
    (∀ b ∈ calls.flatMap q.bindings, ∀ b' ∈ calls.flatMap q.bindings, b.1 = b'.1 → b.2 = b'.2) ↔
      ∀ compared ∈ calls, ∀ bounded ∈ calls, ¬ q.Collides compared bounded := by
  constructor
  · rintro h compared hcompared bounded hbounded
      ⟨f, g, v, low, high, hf, hg, hv, hargs, hclash⟩
    -- The two would bind their shared name to two values.
    have hmem : ("@" ++ f.column, v) ∈ calls.flatMap q.bindings := by
      refine List.mem_flatMap.2 ⟨compared, hcompared, ?_⟩
      rw [bindings_of_compared hf hv]
      exact List.mem_cons_self
    have hbounds : ∀ b ∈ [("@" ++ (g.column ++ "1"), low), ("@" ++ (g.column ++ "2"), high)],
        b ∈ calls.flatMap q.bindings := by
      intro b hb
      refine List.mem_flatMap.2 ⟨bounded, hbounded, ?_⟩
      rwa [bindings_of_bounded hg hargs]
    rcases hclash with ⟨hname, hne⟩ | ⟨hname, hne⟩
    · exact hne (h _ hmem _ (hbounds _ List.mem_cons_self) (congrArg ("@" ++ ·) hname))
    · exact hne (h _ hmem _ (hbounds _ (List.mem_cons_of_mem _ List.mem_cons_self))
        (congrArg ("@" ++ ·) hname))
  · intro h b hb b' hb' hname
    obtain ⟨call, hcall, hmem⟩ := List.mem_flatMap.1 hb
    obtain ⟨call', hcall', hmem'⟩ := List.mem_flatMap.1 hb'
    rcases exists_of_mem_bindings (hcalls call hcall) hmem with
      ⟨f, v, hf, hv, rfl⟩ | ⟨f, low, high, hf, hargs, hor⟩
    · rcases exists_of_mem_bindings (hcalls call' hcall') hmem' with
        ⟨g, w, hg, hw, rfl⟩ | ⟨g, low, high, hg, hargs, hor⟩
      · -- Two comparisons share a parameter only if they are about the same column.
        have hsame : f.column = g.column := (String.append_right_inj "@").1 hname
        obtain rfl : call = call' := eq_of_column?_eq hcolumns hcall hcall' <| by
          rw [column?_of_compared hf, column?_of_compared hg, hsame]
        exact (List.cons.inj (hv.symm.trans hw)).1
      · exact eq_of_not_collides (h call hcall call' hcall') hf hg hv hargs hor hname
    · rcases exists_of_mem_bindings (hcalls call' hcall') hmem' with
        ⟨g, w, hg, hw, rfl⟩ | ⟨g, low', high', hg, hargs', hor'⟩
      · exact (eq_of_not_collides (h call' hcall' call hcall) hg hf hw hargs hor hname.symm).symm
      · refine eq_of_bounds (fun hcolumn => ?_) hor hor' hname
        -- Two pairs of bounds about one column are one call.
        obtain rfl : call = call' := eq_of_column?_eq hcolumns hcall hcall' <| by
          rw [column?_of_bounded hf, column?_of_bounded hg, hcolumn]
        exact hargs.symm.trans hargs'

/-- A column whose alias has no at sign has no placeholder of its own. -/
private theorem isClear_of_alias (hcall : call.IsPredicate)
    (halias : ∀ f, call.field? = some f → ∀ a ∈ f.tableAlias, '@' ∉ a.toList) : q.IsClear call := by
  intro f hfield _
  -- The column is a word in each predicate.
  have hcolumn : Text.isWordText f.column = true := by
    cases call with
    | when f' accept operator | between f' accept | betweenValues f' low high =>
      obtain rfl := Option.some.inj hfield
      exact hcall.1
    | _ => exact hcall.elim
  exact tokens_of_not_mem (not_mem_columnSql (by decide) (by decide)
    (not_mem_of_isWordText hcolumn isWord_at) (halias f hfield))

/-- **When predicates on different columns leave each other alone.**  At the end of a run each
    placeholder of each condition stands for the value that its call bound to it, unless a column as
    it stands brings a placeholder of its own, or a comparison is about a column called like that of
    a pair of bounds followed by 1 or by 2 and binds another value than this bound.  Without an at
    sign in an alias and without such a pair of columns, nothing of this can be. -/
theorem resolves_iff (hsingle : q.builder.params.IsSingle)
    (hcalls : ∀ call ∈ calls, call.IsPredicate)
    (hcolumns : calls.Pairwise fun a b => a.column? ≠ b.column?) :
    (q.Resolves calls ↔
      (∀ call ∈ calls, q.IsClear call) ∧
        ∀ compared ∈ calls, ∀ bounded ∈ calls, ¬ q.Collides compared bounded) ∧
      ((∀ call ∈ calls, ∀ f, call.field? = some f → ∀ a ∈ f.tableAlias, '@' ∉ a.toList) →
        (∀ compared ∈ calls, ∀ bounded ∈ calls, ∀ f g, compared.comparedField? = some f →
          bounded.boundedField? = some g →
            f.column ≠ g.column ++ "1" ∧ f.column ≠ g.column ++ "2") →
        q.Resolves calls) := by
  -- Once no column brings a placeholder, it only matters whether bindings agree.
  have hiff : (∀ call ∈ calls, q.IsClear call) →
      (q.Resolves calls ↔
        ∀ compared ∈ calls, ∀ bounded ∈ calls, ¬ q.Collides compared bounded) :=
    fun hclear =>
      (resolves_iff_agree hsingle hcalls hclear).trans (agree_iff_not_collides hcalls hcolumns)
  refine ⟨⟨fun h => ?_, fun h => (hiff h.1).2 h.2⟩, fun halias hapart => ?_⟩
  · have hclear := isClear_of_resolves hcalls h
    exact ⟨hclear, (hiff hclear).1 h⟩
  · refine (hiff fun call hcall => isClear_of_alias (hcalls call hcall) (halias call hcall)).2 ?_
    -- A collision needs a pair of columns that is ruled out.
    rintro compared hcompared bounded hbounded ⟨f, g, v, low, high, hf, hg, -, -, hclash⟩
    obtain ⟨hone, htwo⟩ := hapart compared hcompared bounded hbounded f g hf hg
    rcases hclash with ⟨hname, -⟩ | ⟨hname, -⟩
    · exact hone hname
    · exact htwo hname

/-- A field with numbers for its values, called like its column. -/
def numberField (column : String) : Field := .new ⟨"orders"⟩ column column (.int .int32)

/-- A query for a request with two bounds for one column and a number for another one, whose name is
    longer by `suffix`. -/
def neighbourQuery (suffix : String) : Query :=
  .ofBag ⟨"orders"⟩ (.ofList
    [("a", .array [.int32 (IntWidth.int32.clamp 1), .int32 (IntWidth.int32.clamp 2)]),
      ("a" ++ suffix, .int32 (IntWidth.int32.clamp 5))])

/-- A pair of bounds for the one column and a comparison of the other one. -/
def neighbourCalls (suffix : String) : List Call :=
  [.between (numberField "a") none, .when (numberField ("a" ++ suffix)) none none]

private theorem isPredicate_neighbourCalls {suffix : String}
    (h : suffix.toList.all Text.isWord = true) :
    ∀ call ∈ neighbourCalls suffix, call.IsPredicate := by
  simp only [neighbourCalls, List.forall_mem_cons]
  exact ⟨⟨by decide, rfl⟩, ⟨isWordText_append (by decide) h, rfl⟩,
    fun call hcall => absurd hcall List.not_mem_nil⟩

private theorem pairwise_neighbourCalls {suffix : String} (h : "a" ≠ "a" ++ suffix) :
    (neighbourCalls suffix).Pairwise fun a b => a.column? ≠ b.column? :=
  List.pairwise_pair.2 fun hcolumn => h (Option.some.inj hcolumn)

/-- A column that is called like another one followed by 11 is far enough from it. -/
theorem resolves_neighbourCalls :
    ((neighbourQuery "11").builder.params.IsSingle ∧
      (∀ call ∈ neighbourCalls "11", call.IsPredicate) ∧
      (neighbourCalls "11").Pairwise fun a b => a.column? ≠ b.column?) ∧
    (neighbourQuery "11").Resolves (neighbourCalls "11") := by
  have hcalls : ∀ call ∈ neighbourCalls "11", call.IsPredicate :=
    isPredicate_neighbourCalls (by decide)
  have hcolumns : (neighbourCalls "11").Pairwise fun a b => a.column? ≠ b.column? :=
    pairwise_neighbourCalls (by decide)
  refine ⟨⟨Params.isSingle_empty, hcalls, hcolumns⟩, ?_⟩
  refine (resolves_iff Params.isSingle_empty hcalls hcolumns).2 ?_ ?_
  · simp only [neighbourCalls, List.forall_mem_cons]
    refine ⟨fun f hf a ha => ?_, fun f hf a ha => ?_,
      fun call hcall => absurd hcall List.not_mem_nil⟩
    · obtain rfl := Option.some.inj hf
      cases ha
    · obtain rfl := Option.some.inj hf
      cases ha
  · intro compared hcompared bounded hbounded f g hf hg
    simp only [neighbourCalls, List.mem_cons, List.not_mem_nil, or_false] at hcompared hbounded
    rcases hcompared with rfl | rfl
    · cases hf
    · rcases hbounded with rfl | rfl
      · obtain rfl := Option.some.inj hf
        obtain rfl := Option.some.inj hg
        decide
      · cases hg

/-- A column that is called like another one followed by 1 is not: the comparison takes away the
    lower bound. -/
theorem not_resolves_neighbourCalls :
    ((neighbourQuery "1").builder.params.IsSingle ∧
      (∀ call ∈ neighbourCalls "1", call.IsPredicate) ∧
      (neighbourCalls "1").Pairwise fun a b => a.column? ≠ b.column?) ∧
    ¬ (neighbourQuery "1").Resolves (neighbourCalls "1") := by
  refine ⟨⟨Params.isSingle_empty, isPredicate_neighbourCalls (by decide),
    pairwise_neighbourCalls (by decide)⟩, fun h => ?_⟩
  let one : Value := .int32 (IntWidth.int32.clamp 1)
  let two : Value := .int32 (IntWidth.int32.clamp 2)
  let five : Value := .int32 (IntWidth.int32.clamp 5)
  have hbetween : (neighbourQuery "1").outcome (.between (numberField "a") none) =
      .emit (.condition "a BETWEEN @a1 AND @a2" [one, two]) := by rfl
  have hvalues := h [] _ _ rfl _ _ hbetween
  have htokens : tokens "a BETWEEN @a1 AND @a2" = ["@a1", "@a2"] := by decide
  rw [htokens] at hvalues
  -- The comparison was bound last.
  have hget : ((neighbourQuery "1").run (neighbourCalls "1")).builder.params.get? "@a1" =
      some five := by rfl
  obtain ⟨hone, -⟩ := List.forall₂_cons.1 hvalues
  rw [hget] at hone
  exact absurd (Value.int32.inj (Option.some.inj hone)) (by decide)

end SqlAssembly.Query
