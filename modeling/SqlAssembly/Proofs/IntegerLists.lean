import SqlAssembly.Proofs.ConditionalCalls
import SqlAssembly.Proofs.IntegerNarrowing

/-! # Lists of integers as texts

A list of integers is written as their texts with a separator between them, and read by cutting a
text at separators.  A separator without digits and minus signs has nothing in common with the text
of an integer, so the list that was written is read.  Separators of one character are applied one
after the other, but that comes to cutting at all of them at once: what is read are the runs of the
other characters.

* `Text.runs`                      the runs of characters that are no separators
* `Text.flatMap_splitOnP`          cutting twice is cutting at both kinds of characters
* `Text.piecesOn_intercalate`      the pieces that were joined are the pieces
* `splitInts?_eq_mapM_runs`        the integers are those of the runs
* `splitInts?_concat`              a list that was written is read
* `splitInts?_reads_lists`         what is read of a list and what is read of any text -/

namespace SqlAssembly

namespace Text

/-! ## Runs -/

/-- The runs of characters that are no separators, as long as they can be and none of them empty. -/
def runs (isSep : Char → Bool) : List Char → List (List Char)
  | [] => []
  | c :: cs =>
    if isSep c then runs isSep cs
    else (c :: cs.takeWhile (!isSep ·)) :: runs isSep (cs.dropWhile (!isSep ·))
termination_by cs => cs.length
decreasing_by
  · exact Nat.lt_succ_self _
  · exact Nat.lt_succ_of_le (List.dropWhile_sublist _).length_le

/-- The runs are the pieces between separators that are not empty. -/
private theorem filter_splitOnP (isSep : Char → Bool) (cs : List Char) :
    (cs.splitOnP isSep).filter (· ≠ []) = runs isSep cs := by
  -- By the cases of the runs: the end, a separator, or a run and what is behind it.
  induction cs using runs.induct isSep with
  | case1 =>
    rw [runs]
    rfl
  | case2 c cs hc ih =>
    rw [List.splitOnP_cons_eq_if_modifyHead, if_pos hc, runs, if_pos hc, ← ih]
    rfl
  | case3 c cs hc ih =>
    have hrun : ∀ d ∈ c :: cs.takeWhile (!isSep ·), isSep d = false := fun d hd => by
      rcases List.mem_cons.1 hd with rfl | hd
      · exact Bool.eq_false_iff.2 hc
      · simpa using List.mem_takeWhile_imp hd
    -- A run is a piece as a whole, in which nothing is cut.
    have hsplit : c :: cs = c :: cs.takeWhile (!isSep ·) ++ cs.dropWhile (!isSep ·) :=
      congrArg (c :: ·) List.takeWhile_append_dropWhile.symm
    rw [runs, if_neg hc, ← ih, hsplit]
    -- The run ends with the text or at a separator.
    cases hrest : cs.dropWhile (!isSep ·) with
    | nil => rw [List.append_nil, List.splitOnP_eq_singleton hrun]; rfl
    | cons d ds =>
      have hd : isSep d = true := by
        have hhead := List.head_dropWhile_not (!isSep ·) (l := cs) (by simp [hrest])
        simpa [hrest] using hhead
      rw [List.splitOnP_append_cons_of_forall_mem hrun d hd,
        List.splitOnP_cons_eq_if_modifyHead, if_pos hd]
      rfl

/-! ## Cutting at single characters -/

/-- Cutting the pieces at more characters is cutting at the ones and the others. -/
theorem flatMap_splitOnP (p q : Char → Bool) (cs : List Char) :
    (cs.splitOnP p).flatMap (List.splitOnP q) = cs.splitOnP fun c => p c || q c := by
  induction cs with
  | nil => rfl
  | cons c cs ih =>
    obtain ⟨first, rest, hpieces⟩ := List.exists_cons_of_ne_nil (List.splitOnP_ne_nil p cs)
    rw [hpieces, List.flatMap_cons] at ih
    rw [List.splitOnP_cons_eq_if_modifyHead, List.splitOnP_cons_eq_if_modifyHead, ← ih, hpieces]
    -- A separator of the first kind begins a new piece for both.
    cases hp : p c with
    | true => rfl
    | false =>
      simp only [Bool.false_eq_true, if_false, Bool.false_or, List.modifyHead_cons,
        List.flatMap_cons, List.splitOnP_cons_eq_if_modifyHead]
      -- One of the second kind cuts the first piece, and any other character goes on with it.
      cases hq : q c with
      | true => rfl
      | false =>
        obtain ⟨run, runs, hruns⟩ := List.exists_cons_of_ne_nil (List.splitOnP_ne_nil q first)
        simp [hruns]

/-- A separator of one character is found wherever the character is. -/
private theorem piecesOn_singleton (sep : Char) (cs : List Char) :
    piecesOn [sep] 0 cs = cs.splitOn sep := by
  induction cs with
  | nil => rfl
  | cons c cs ih =>
    -- There is a piece for the character to go to.
    have hpieces : cs.splitOn sep ≠ [] := List.splitOnP_ne_nil _ cs
    rw [piecesOn, List.splitOn_cons_eq_if_modifyHead, ih, List.isPrefixOf_cons_cons,
      List.isPrefixOf_nil_left, Bool.and_true, List.length_singleton, ih, BEq.comm]
    obtain ⟨first, rest, hsplit⟩ := List.exists_cons_of_ne_nil hpieces
    rw [hsplit]
    rfl

private theorem splitOn_singleton (sep : Char) (s : String) :
    splitOn (String.singleton sep) s = (s.toList.splitOn sep).map String.ofList := by
  rw [splitOn, String.toList_singleton, piecesOn_singleton]

/-- Cutting at single characters one after the other is cutting at all of them. -/
private theorem foldl_splitOn (seps : List Char) (pieces : List String) :
    (seps.map String.singleton).foldl (fun pieces sep => pieces.flatMap (splitOn sep)) pieces =
      pieces.flatMap fun s => (s.toList.splitOnP (· ∈ seps)).map String.ofList := by
  induction seps generalizing pieces with
  | nil =>
    -- At no separator the text stays in one piece.
    have hwhole : ∀ s : String,
        (s.toList.splitOnP (· ∈ ([] : List Char))).map String.ofList = [s] := fun s => by
      rw [List.splitOnP_eq_singleton fun c _ => decide_eq_false List.not_mem_nil,
        List.map_singleton, String.ofList_toList]
    simp only [hwhole, List.flatMap_singleton']
    rfl
  | cons sep seps ih =>
    rw [List.map_cons, List.foldl_cons, ih, List.flatMap_assoc]
    congr 1
    funext s
    -- To be cut at one and then at the others is to be cut at all of them.
    have hmem : (fun c => c == sep || decide (c ∈ seps)) = fun c => decide (c ∈ sep :: seps) := by
      funext c
      exact Bool.eq_iff_iff.2 (by simp)
    rw [splitOn_singleton, List.splitOn_eq_splitOnP, ← hmem, ← flatMap_splitOnP, List.flatMap_map,
      List.map_flatMap]
    simp only [String.toList_ofList]

/-! ## Cutting what was joined -/

/-- The rest of a separator that was found is passed over. -/
private theorem piecesOn_length_append (sep front rest : List Char) :
    piecesOn sep front.length (front ++ rest) = piecesOn sep 0 rest := by
  induction front with
  | nil => rfl
  | cons c cs ih => exact ih

/-- A text that has the first character of the separator nowhere is one piece. -/
private theorem piecesOn_of_not_mem {c : Char} {cs t : List Char} (h : c ∉ t) :
    piecesOn (c :: cs) 0 t = [t] := by
  induction t with
  | nil => rfl
  | cons d ds ih =>
    -- The separator cannot begin at this character.
    have hne : (c == d) = false := beq_false_of_ne fun heq => h (heq ▸ List.mem_cons_self)
    rw [piecesOn, List.isPrefixOf_cons_cons, hne, Bool.false_and, if_neg Bool.false_ne_true,
      ih fun hmem => h (List.mem_cons_of_mem d hmem)]
    rfl

/-- In front of the separator it is the first of the pieces. -/
private theorem piecesOn_append {c : Char} {cs t : List Char} (h : c ∉ t) (rest : List Char) :
    piecesOn (c :: cs) 0 (t ++ (c :: cs) ++ rest) = t :: piecesOn (c :: cs) 0 rest := by
  induction t with
  | nil =>
    -- The separator is found here, and the rest of it is passed over.
    have hfront : (c :: cs).isPrefixOf (c :: (cs ++ rest)) = true :=
      List.isPrefixOf_iff_prefix.2 (List.prefix_append (c :: cs) rest)
    rw [List.nil_append, List.cons_append, piecesOn, if_pos hfront]
    exact congrArg ([] :: ·) (piecesOn_length_append (c :: cs) cs rest)
  | cons d ds ih =>
    have hne : (c == d) = false := beq_false_of_ne fun heq => h (heq ▸ List.mem_cons_self)
    rw [List.cons_append, List.cons_append, piecesOn, List.isPrefixOf_cons_cons, hne,
      Bool.false_and, if_neg Bool.false_ne_true, ih fun hmem => h (List.mem_cons_of_mem d hmem)]
    rfl

/-- The pieces that were joined are the pieces, if they have the first character of the separator
    nowhere. -/
theorem piecesOn_intercalate {c : Char} {cs : List Char} {ts : List (List Char)} (hts : ts ≠ [])
    (h : ∀ t ∈ ts, c ∉ t) : piecesOn (c :: cs) 0 ((c :: cs).intercalate ts) = ts := by
  induction ts with
  | nil => exact absurd rfl hts
  | cons t ts ih =>
    have ht := h t List.mem_cons_self
    cases ts with
    | nil => rw [List.intercalate_singleton, piecesOn_of_not_mem ht]
    | cons u us =>
      rw [List.intercalate_cons_cons, piecesOn_append ht,
        ih (List.cons_ne_nil u us) fun v hv => h v (List.mem_cons_of_mem t hv)]

/-- If none of the texts that were joined is empty, they are the pieces that are not empty. -/
private theorem filter_piecesOn_intercalate {c : Char} {cs : List Char} {ts : List (List Char)}
    (h : ∀ t ∈ ts, t ≠ [] ∧ c ∉ t) :
    (piecesOn (c :: cs) 0 ((c :: cs).intercalate ts)).filter (· ≠ []) = ts := by
  -- No texts are joined to the empty text, whose one piece is empty.
  by_cases hts : ts = []
  · subst hts
    rfl
  · rw [piecesOn_intercalate hts fun t ht => (h t ht).2, List.filter_eq_self]
    exact fun t ht => decide_eq_true (h t ht).1

end Text

/-! ## The reader -/

/-- What is read of pieces: the integers of the ones that are not empty. -/
private theorem mapM_filter_ofList (pieces : List (List Char)) :
    ((pieces.map String.ofList).filter (· ≠ "")).mapM
        (fun p => IntWidth.int32.read? 10 (Text.trimChars p.toList)) =
      (pieces.filter (· ≠ [])).mapM fun p => IntWidth.int32.read? 10 (Text.trimChars p) := by
  have hempty : (fun p : String => decide (p ≠ "")) ∘ String.ofList = fun p => decide (p ≠ []) := by
    funext p
    simp
  rw [List.filter_map, hempty, List.mapM_map]
  simp only [Function.comp_def, String.toList_ofList]

/-- The integers are those of the runs between the separators. -/
theorem splitInts?_eq_mapM_runs (s : String) (seps : List Char) :
    splitInts? s (seps.map String.singleton) =
      (Text.runs (· ∈ seps) s.toList).mapM fun run =>
        IntWidth.int32.read? 10 (Text.trimChars run) := by
  -- No separator of one character is empty, so that all of them count.
  have hseps : (seps.map String.singleton).filter (· ≠ "") = seps.map String.singleton := by
    simp [List.filter_eq_self]
  rw [splitInts?, hseps, Text.foldl_splitOn, List.flatMap_singleton, mapM_filter_ofList,
    Text.filter_splitOnP]

/-- The text of a list of integers is the decimal texts with the separator between them. -/
theorem toList_concat (xs : List IntWidth.int32.Carrier) (sep : String) :
    (Value.concat (xs.map .int32) sep).toList =
      sep.toList.intercalate (xs.map fun x => Numeral.decimalInt x.val) := by
  rw [Value.concat, String.toList_intercalate, List.map_map, List.map_map]
  congr 2
  funext x
  exact String.toList_ofList

/-- The integer of a decimal text is read. -/
private theorem read?_trimChars_decimalInt (x : IntWidth.int32.Carrier) :
    IntWidth.int32.read? 10 (Text.trimChars (Numeral.decimalInt x.val)) = some x := by
  have htrim : Text.trimChars ([] ++ Numeral.decimalInt x.val ++ []) = Numeral.decimalInt x.val :=
    Text.trimChars_surrounded (Numeral.decimalInt_ne_nil x.val)
      (fun _ => Numeral.not_isBlank_of_mem_decimalInt) nofun nofun
  rw [List.nil_append, List.append_nil] at htrim
  rw [htrim, IntWidth.read?_decimalInt, IntWidth.ofInt?_val]

/-- A list that was written with a separator without digits and minus signs is read. -/
theorem splitInts?_concat (xs : List IntWidth.int32.Carrier) {sep : String} (hsep : sep ≠ "")
    (hplain : ∀ c ∈ sep.toList, Numeral.isDigit c = false ∧ c ≠ '-') :
    splitInts? (Value.concat (xs.map .int32) sep) [sep] = some xs := by
  obtain ⟨c, cs, hchars⟩ := List.exists_cons_of_ne_nil (mt String.toList_eq_nil_iff.1 hsep)
  have hfirst := hplain c (hchars ▸ List.mem_cons_self)
  -- A decimal text has digits and a minus sign only, and so no separator in it.
  have htexts : ∀ t ∈ xs.map fun x => Numeral.decimalInt x.val, t ≠ [] ∧ c ∉ t := fun t ht => by
    obtain ⟨x, -, rfl⟩ := List.mem_map.1 ht
    refine ⟨Numeral.decimalInt_ne_nil x.val, fun hmem => ?_⟩
    rcases Numeral.mem_decimalInt hmem with hminus | hdigit
    · exact hfirst.2 hminus
    · exact Bool.noConfusion (hfirst.1.symm.trans hdigit)
  have hused : [sep].filter (· ≠ "") = [sep] := by simp [hsep]
  rw [splitInts?, hused, List.foldl_cons, List.foldl_nil, List.flatMap_singleton, Text.splitOn,
    mapM_filter_ofList, toList_concat, hchars, Text.filter_piecesOn_intercalate htexts,
    Bag.mapM_eq_some_iff, List.forall₂_map_left_iff, List.forall₂_same]
  exact fun x _ => read?_trimChars_decimalInt x

/-- **Lists of integers as texts.**  A list of integers that is written with a separator without
    digits and minus signs is read back.  Of any text, separators of one character each give the
    same integers in every order and however often they are given, and the text is read exactly if
    each run of other characters is a literal of an integer of 32 bits but for white space around
    it; what is read are the integers of the runs in their order. -/
theorem splitInts?_reads_lists :
    (∀ (xs : List IntWidth.int32.Carrier) (sep : String), sep ≠ "" →
      (∀ c ∈ sep.toList, Numeral.isDigit c = false ∧ c ≠ '-') →
        splitInts? (Value.concat (xs.map .int32) sep) [sep] = some xs) ∧
    (∀ (s : String) (seps seps' : List Char), (∀ c, c ∈ seps ↔ c ∈ seps') →
      splitInts? s (seps.map String.singleton) = splitInts? s (seps'.map String.singleton)) ∧
    ∀ (s : String) (seps : List Char) (ys : List IntWidth.int32.Carrier),
      splitInts? s (seps.map String.singleton) = some ys ↔
        List.Forall₂ (fun run y => Numeral.IsLiteral (Text.trimChars run) y.val)
          (Text.runs (· ∈ seps) s.toList) ys := by
  refine ⟨fun xs sep hsep hplain => splitInts?_concat xs hsep hplain, fun s seps seps' h => ?_,
    fun s seps ys => ?_⟩
  · -- The runs depend on which characters are separators, and on nothing else.
    rw [splitInts?_eq_mapM_runs, splitInts?_eq_mapM_runs]
    simp only [h]
  · rw [splitInts?_eq_mapM_runs, Bag.mapM_eq_some_iff]
    -- What a width reads of a run is its literal.
    have hread : ∀ run (y : IntWidth.int32.Carrier),
        IntWidth.int32.read? 10 (Text.trimChars run) = some y ↔
          Numeral.IsLiteral (Text.trimChars run) y.val := fun run y =>
      IntWidth.read?_eq_some_iff rfl
    simp only [hread]

/-- Two integers with commas and blanks between them are read, and so are the integers of runs
    between commas and semicolons, whichever comes first. -/
theorem splitInts?_reads_separated_integers :
    splitInts?
        (Value.concat ([⟨-12, by decide, by decide⟩, ⟨3, by decide, by decide⟩].map .int32) ", ")
        [", "] = some [⟨-12, by decide, by decide⟩, ⟨3, by decide, by decide⟩] ∧
      splitInts? "1;; +2," [";", ","] =
        some [⟨1, by decide, by decide⟩, ⟨2, by decide, by decide⟩] ∧
      splitInts? "1;; +2," [",", ";", ","] = splitInts? "1;; +2," [";", ","] := by
  obtain ⟨hlists, hsets, htexts⟩ := splitInts?_reads_lists
  -- The runs of the text, in which two separators stand side by side.
  have hruns : Text.runs (· ∈ [';', ',']) "1;; +2,".toList = [['1'], [' ', '+', '2']] :=
    (Text.filter_splitOnP _ _).symm.trans (by decide)
  have hplain : ∀ c ∈ ", ".toList, Numeral.isDigit c = false ∧ c ≠ '-' :=
    List.forall_mem_cons.2 ⟨by decide, List.forall_mem_singleton.2 (by decide)⟩
  refine ⟨hlists _ ", " (by decide) hplain, (htexts "1;; +2," [';', ','] _).2 ?_,
    hsets "1;; +2," [',', ';', ','] [';', ','] fun c => by simp [or_comm]⟩
  rw [hruns]
  have hone : Numeral.IsDigits ['1'] := ⟨by decide, List.forall_mem_singleton.2 rfl⟩
  have htwo : Numeral.IsDigits ['2'] := ⟨by decide, List.forall_mem_singleton.2 rfl⟩
  exact .cons (.unsigned hone) (.cons (.plus htwo) .nil)

end SqlAssembly
