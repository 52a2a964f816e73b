import SqlAssembly.Proofs.PlaceholderTokens

/-! # The search for placeholders

What a placeholder is can be said in two ways that know nothing of how a text is read.  A search
for a pattern takes the leftmost piece of the text that the pattern fits, of several at that place
the longest, and goes on behind it.  A placeholder also stands at a place: an at sign with a word
behind it that runs as far as it can.  The placeholders of a text are what the search finds and
what stands at its places, each once and from left to right.

* `Placeholder.IsNextMatch`, `Placeholder.Finds`   leftmost and longest matches, one behind another
* `Placeholder.Finds.unique`     a search has one result
* `Placeholder.finds_tokenChars`   the search for placeholders
* `Placeholder.IsTokenAt`        the place of a placeholder
* `Placeholder.exists_places`    every place and its placeholder, from left to right
* `Placeholder.tokens_exact`     texts put together, the search and the places -/

namespace SqlAssembly.Placeholder

/-! ## Searches -/

section Search

variable {p : List Char → Prop} {cs before m after : List Char} {ms : List (List Char)} {c : Char}

/-- The first piece of a text that a search takes, with what stands before it and behind it. -/
structure IsNextMatch (p : List Char → Prop) (cs before m after : List Char) : Prop where
  fits : p m
  text_eq : cs = before ++ m ++ after
  leftmost : ∀ b m' a, cs = b ++ m' ++ a → p m' → before.length ≤ b.length
  longest : ∀ m' a, cs = before ++ m' ++ a → p m' → m'.length ≤ m.length

/-- The pieces of a text that a search takes, from left to right. -/
inductive Finds (p : List Char → Prop) : List Char → List (List Char) → Prop where
  | nothing {cs : List Char} (hnone : ∀ b m a, cs = b ++ m ++ a → ¬ p m) : Finds p cs []
  | next {cs before m after : List Char} {ms : List (List Char)}
      (hnext : IsNextMatch p cs before m after) (hrest : Finds p after ms) : Finds p cs (m :: ms)

theorem IsNextMatch.unique {before' m' after' : List Char} (h : IsNextMatch p cs before m after)
    (h' : IsNextMatch p cs before' m' after') : m = m' ∧ after = after' := by
  -- Each of the two is as far to the left as the other …
  have hle := h.leftmost _ _ _ h'.text_eq h'.fits
  have hge := h'.leftmost _ _ _ h.text_eq h.fits
  have htext : before ++ (m ++ after) = before' ++ (m' ++ after') := by
    rw [← List.append_assoc, ← List.append_assoc, ← h.text_eq, ← h'.text_eq]
  obtain ⟨rfl, hmatch⟩ := List.append_inj htext (by omega)
  -- … and as long.
  have hshort := h.longest _ _ h'.text_eq h'.fits
  have hlong := h'.longest _ _ h.text_eq h.fits
  exact List.append_inj hmatch (by omega)

/-- A search has one result. -/
theorem Finds.unique {ms' : List (List Char)} (h : Finds p cs ms) (h' : Finds p cs ms') :
    ms = ms' := by
  induction h generalizing ms' with
  -- A search that found something cannot have found nothing.
  | nothing hnone =>
    cases h' with
    | nothing => rfl
    | next hnext => exact absurd hnext.fits (hnone _ _ _ hnext.text_eq)
  | next hnext hrest ih =>
    cases h' with
    | nothing hnone => exact absurd hnext.fits (hnone _ _ _ hnext.text_eq)
    | next hnext' hrest' =>
      obtain ⟨rfl, rfl⟩ := hnext.unique hnext'
      rw [ih hrest']

theorem IsNextMatch.cons (hc : ∀ m' a, c :: cs = m' ++ a → ¬ p m')
    (h : IsNextMatch p cs before m after) : IsNextMatch p (c :: cs) (c :: before) m after where
  fits := h.fits
  text_eq := by rw [h.text_eq]; rfl
  leftmost b m' a htext hm' := by
    -- A match at the new character is excluded, so any other one is behind it.
    cases b with
    | nil => exact absurd hm' (hc m' a htext)
    | cons d b =>
      have hle := h.leftmost b m' a (List.cons.inj htext).2 hm'
      simp only [List.length_cons]
      omega
  longest m' a htext := h.longest m' a (List.cons.inj htext).2

/-- A character at which the pattern fits nothing leaves the result of a search alone. -/
theorem Finds.cons (hc : ∀ m' a, c :: cs = m' ++ a → ¬ p m') (h : Finds p cs ms) :
    Finds p (c :: cs) ms := by
  cases h with
  | nothing hnone =>
    refine .nothing fun b m a htext => ?_
    cases b with
    | nil => exact hc m a htext
    | cons d b => exact hnone b m a (List.cons.inj htext).2
  | next hnext hrest => exact .next (hnext.cons hc) hrest

end Search

/-! ## Placeholders as a pattern -/

/-- The pattern of a placeholder: an at sign with a word behind it. -/
def IsPlaceholder (m : List Char) : Prop :=
  ∃ word, m = '@' :: word ∧ word ≠ [] ∧ ∀ c ∈ word, Text.isWord c = true

/-- Whether a character is an at sign with a word behind it. -/
def IsFront (c : Char) (cs : List Char) : Prop := c = '@' ∧ cs.takeWhile Text.isWord ≠ []

private theorem tokenChars_of_isFront {c : Char} {cs : List Char} (h : IsFront c cs) :
    tokenChars (c :: cs) = ('@' :: cs.takeWhile Text.isWord) :: tokenChars cs := by
  rw [tokenChars, if_pos h.1]
  split
  · rename_i hnil
    exact absurd hnil h.2
  · rfl

private theorem tokenChars_of_not_isFront {c : Char} {cs : List Char} (h : ¬ IsFront c cs) :
    tokenChars (c :: cs) = tokenChars cs := by
  rw [tokenChars]
  split
  · rename_i hc
    split
    · rfl
    · rename_i hne
      exact absurd ⟨hc, hne⟩ h
  · rfl

/-- A run of word characters at the front of a text is no longer than the longest one. -/
private theorem length_le_takeWhile {word : List Char} (hword : ∀ c ∈ word, Text.isWord c = true)
    (rest : List Char) : word.length ≤ ((word ++ rest).takeWhile Text.isWord).length := by
  rw [List.takeWhile_append_of_pos hword, List.length_append]
  omega

/-- Where the pattern fits at the front of a text. -/
private theorem isFront_of_isPlaceholder {c : Char} {cs m rest : List Char} (hm : IsPlaceholder m)
    (htext : c :: cs = m ++ rest) :
    IsFront c cs ∧ m.length ≤ (cs.takeWhile Text.isWord).length + 1 := by
  obtain ⟨word, rfl, hne, hword⟩ := hm
  have ⟨hc, hcs⟩ := List.cons.inj htext
  -- The word that fits is part of the run of word characters.
  have hle := length_le_takeWhile hword rest
  have hpos := List.length_pos_iff.mpr hne
  rw [IsFront, hcs]
  exact ⟨⟨hc, List.ne_nil_of_length_pos (Nat.lt_of_lt_of_le hpos hle)⟩, Nat.succ_le_succ hle⟩

/-- The pattern fits the longest run of word characters behind an at sign, and nothing longer. -/
private theorem isNextMatch_takeWhile {cs : List Char} (hne : cs.takeWhile Text.isWord ≠ []) :
    IsNextMatch IsPlaceholder ('@' :: cs) [] ('@' :: cs.takeWhile Text.isWord)
      (cs.dropWhile Text.isWord) where
  fits := ⟨_, rfl, hne, fun _ hc => List.mem_takeWhile_imp hc⟩
  text_eq := by
    rw [List.nil_append, List.cons_append, List.takeWhile_append_dropWhile]
  leftmost b _ _ _ _ := Nat.zero_le b.length
  longest m' a htext hm' := (isFront_of_isPlaceholder hm' htext).2

/-- A run of word characters has no placeholder of its own. -/
private theorem tokenChars_dropWhile (cs : List Char) :
    tokenChars (cs.dropWhile Text.isWord) = tokenChars cs := by
  -- The run that is dropped has no at sign.
  have hat : '@' ∉ cs.takeWhile Text.isWord := by
    intro hmem
    exact absurd (List.mem_takeWhile_imp hmem) (by rw [isWord_at]; exact Bool.false_ne_true)
  have happend := tokenChars_append_of_not_mem hat (cs.dropWhile Text.isWord)
  rw [List.takeWhile_append_dropWhile] at happend
  exact happend.symm

/-- The search for placeholders. -/
theorem finds_tokenChars (cs : List Char) : Finds IsPlaceholder cs (tokenChars cs) := by
  -- the search goes on behind the word, which is a shorter text but not the next one
  induction hlen : cs.length using Nat.strongRecOn generalizing cs with
  | ind n ih =>
    cases cs with
    | nil =>
      refine .nothing fun b m a htext hm => ?_
      obtain ⟨word, rfl, -⟩ := hm
      simp at htext
    | cons c cs =>
      rw [List.length_cons] at hlen
      have hskip : Finds IsPlaceholder cs (tokenChars cs) := ih cs.length (by omega) cs rfl
      by_cases hfront : IsFront c cs
      · -- What stands behind the word is shorter than the text, and has the same placeholders as
        -- the text behind the at sign.
        have hdrop : (cs.dropWhile Text.isWord).length ≤ cs.length :=
          (List.dropWhile_suffix Text.isWord).length_le
        have hrest := ih (cs.dropWhile Text.isWord).length (by omega) _ rfl
        rw [tokenChars_dropWhile] at hrest
        rw [tokenChars_of_isFront hfront, hfront.1]
        exact .next (isNextMatch_takeWhile hfront.2) hrest
      · rw [tokenChars_of_not_isFront hfront]
        exact hskip.cons fun m a htext hm => hfront (isFront_of_isPlaceholder hm htext).1

/-! ## Placeholders at places -/

/-- An at sign at a place of a text, with the whole run of word characters behind it. -/
def StandsAt (cs : List Char) (i : Nat) (m : List Char) : Prop :=
  ∃ before word after, cs = before ++ '@' :: (word ++ after) ∧ before.length = i ∧
    m = '@' :: word ∧ word ≠ [] ∧ (∀ c ∈ word, Text.isWord c = true) ∧ IsApart after

private theorem isApart_dropWhile (cs : List Char) : IsApart (cs.dropWhile Text.isWord) := by
  intro c hc
  have hnot := List.head?_dropWhile_not Text.isWord cs
  rw [Option.mem_def] at hc
  rw [hc] at hnot
  exact hnot

/-- What stands at the front of a text. -/
private theorem standsAt_zero {c : Char} {cs m : List Char} :
    StandsAt (c :: cs) 0 m ↔ IsFront c cs ∧ m = '@' :: cs.takeWhile Text.isWord := by
  constructor
  · intro ⟨before, word, after, htext, hbefore, hm, hne, hword, hafter⟩
    obtain rfl := List.length_eq_zero_iff.mp hbefore
    obtain ⟨hc, hcs⟩ := List.cons.inj htext
    -- The word goes on as long as it can, so it is the whole run.
    have hrun : cs.takeWhile Text.isWord = word := by
      rw [hcs, takeWhile_append_of_isApart hafter]
      exact List.takeWhile_eq_self_iff.mpr hword
    rw [IsFront, hrun]
    exact ⟨⟨hc, hne⟩, hm⟩
  · intro ⟨⟨hc, hne⟩, hm⟩
    refine ⟨[], _, cs.dropWhile Text.isWord, ?_, rfl, hm, hne,
      fun _ hd => List.mem_takeWhile_imp hd, isApart_dropWhile cs⟩
    rw [List.takeWhile_append_dropWhile, hc, List.nil_append]

/-- What stands further on does so without the first character. -/
private theorem standsAt_succ {c : Char} {cs m : List Char} {i : Nat} :
    StandsAt (c :: cs) (i + 1) m ↔ StandsAt cs i m := by
  constructor
  · intro ⟨before, word, after, htext, hbefore, hrest⟩
    -- The place is not the first one, so something stands before it.
    cases before with
    | nil => simp at hbefore
    | cons d before =>
      exact ⟨before, word, after, (List.cons.inj htext).2, Nat.succ.inj hbefore, hrest⟩
  · intro ⟨before, word, after, htext, hbefore, hrest⟩
    exact ⟨c :: before, word, after, by rw [htext]; rfl, by rw [List.length_cons, hbefore], hrest⟩

/-- The places of a text behind its first character. -/
def shifted (found : List (Nat × List Char)) : List (Nat × List Char) :=
  found.map fun x => (x.1 + 1, x.2)

private theorem mem_shifted {found : List (Nat × List Char)} {i : Nat} {m : List Char} :
    (i, m) ∈ shifted found ↔ ∃ j, i = j + 1 ∧ (j, m) ∈ found := by
  simp only [shifted, List.mem_map, Prod.exists, Prod.mk.injEq]
  constructor
  · intro ⟨j, m', hmem, hi, hm⟩
    exact ⟨j, hi.symm, hm ▸ hmem⟩
  · intro ⟨j, hi, hmem⟩
    exact ⟨j, m, hmem, hi.symm, rfl⟩

private theorem pairwise_shifted {found : List (Nat × List Char)}
    (h : found.Pairwise fun x y => x.1 < y.1) :
    (shifted found).Pairwise fun x y => x.1 < y.1 := by
  rw [shifted, List.pairwise_map]
  exact h.imp fun hlt => Nat.succ_lt_succ hlt

private theorem map_snd_shifted (found : List (Nat × List Char)) :
    (shifted found).map Prod.snd = found.map Prod.snd := by
  rw [shifted, List.map_map]
  rfl

/-- Every place of a placeholder with what stands there, from left to right. -/
theorem exists_places (cs : List Char) :
    ∃ found : List (Nat × List Char), found.map Prod.snd = tokenChars cs ∧
      found.Pairwise (fun x y => x.1 < y.1) ∧ ∀ i m, (i, m) ∈ found ↔ StandsAt cs i m := by
  induction cs with
  | nil =>
    refine ⟨[], rfl, .nil, fun i m => ⟨fun h => absurd h List.not_mem_nil, ?_⟩⟩
    intro ⟨before, word, after, htext, hrest⟩
    simp at htext
  | cons c cs ih =>
    -- The places of the rest are one further on, and the front may be a place of its own.
    obtain ⟨found, htokens, hordered, hmem⟩ := ih
    have hlater (i : Nat) (m : List Char) :
        (i + 1, m) ∈ shifted found ↔ StandsAt (c :: cs) (i + 1) m := by
      rw [mem_shifted, standsAt_succ, ← hmem]
      simp
    have hnot (m : List Char) : (0, m) ∉ shifted found := by
      rw [mem_shifted]
      simp
    by_cases hfront : IsFront c cs
    · refine ⟨(0, '@' :: cs.takeWhile Text.isWord) :: shifted found, ?_, ?_, ?_⟩
      · -- the placeholder at the front is the first one
        rw [tokenChars_of_isFront hfront, List.map_cons, map_snd_shifted, htokens]
      · -- and all others stand behind it
        refine .cons (fun x hx => ?_) (pairwise_shifted hordered)
        obtain ⟨j, hj, -⟩ := mem_shifted.mp hx
        rw [hj]
        exact Nat.succ_pos j
      · intro i m
        rw [List.mem_cons]
        cases i with
        | zero => simp [hnot, standsAt_zero, hfront]
        | succ i => rw [hlater]; simp
    · refine ⟨shifted found, ?_, pairwise_shifted hordered, ?_⟩
      · rw [tokenChars_of_not_isFront hfront, map_snd_shifted, htokens]
      · intro i m
        cases i with
        | zero => simp [hnot, standsAt_zero, hfront]
        | succ i => exact hlater i m

/-! ## Texts -/

/-- A placeholder at a place of a text: the at sign there and the longest run of word characters
    behind it, which is not empty. -/
def IsTokenAt (s : String) (i : Nat) (t : String) : Prop :=
  ∃ before word after, s = before ++ "@" ++ word ++ after ∧ before.length = i ∧ t = "@" ++ word ∧
    Text.isWordText word = true ∧ IsApart after.toList

private theorem isWordText_iff {w : String} :
    Text.isWordText w = true ↔ w.toList ≠ [] ∧ ∀ c ∈ w.toList, Text.isWord c = true := by
  rw [Text.isWordText, Bool.and_eq_true, Bool.not_eq_true', List.isEmpty_eq_false_iff,
    List.all_eq_true]

private theorem toList_at_append (w : String) : ("@" ++ w).toList = '@' :: w.toList := by
  rw [String.toList_append]
  rfl

/-- Places of a text are places of its characters. -/
theorem isTokenAt_iff {s t : String} {i : Nat} :
    IsTokenAt s i t ↔ StandsAt s.toList i t.toList := by
  constructor
  · intro ⟨before, word, after, htext, hi, ht, hword, hafter⟩
    have ⟨hne, hall⟩ := isWordText_iff.mp hword
    refine ⟨before.toList, word.toList, after.toList, ?_, hi, ?_, hne, hall, hafter⟩
    · rw [htext, String.append_assoc, String.append_assoc, String.toList_append,
        toList_at_append, String.toList_append]
    · rw [ht, toList_at_append]
  · intro ⟨before, word, after, htext, hi, ht, hne, hall, hafter⟩
    refine ⟨.ofList before, .ofList word, .ofList after, ?_, ?_, ?_, ?_, ?_⟩
    · apply String.toList_injective
      rw [htext, String.append_assoc, String.append_assoc, String.toList_append,
        toList_at_append, String.toList_append]
      simp only [String.toList_ofList]
    · rw [String.length_ofList, hi]
    · apply String.toList_injective
      rw [ht, toList_at_append, String.toList_ofList]
    · rw [isWordText_iff, String.toList_ofList]
      exact ⟨hne, hall⟩
    · rw [String.toList_ofList]
      exact hafter

private theorem map_toList_tokens (s : String) :
    (tokens s).map String.toList = tokenChars s.toList := by
  rw [tokens, List.map_map]
  simp [Function.comp_def]

/-- The placeholders of a text in front of one that begins no word are those of the two, one
    behind another.  The placeholders of any text stand, from left to right, at the places where
    an at sign has a word behind it, each with the whole of its word; and they are what the search
    for an at sign and a word finds, leftmost first and as long as can be. -/
theorem tokens_exact :
    (∀ a b : String, IsApart b.toList → tokens (a ++ b) = tokens a ++ tokens b) ∧
    (∀ s : String, ∃ found : List (Nat × String), found.map Prod.snd = tokens s ∧
      found.Pairwise (fun x y => x.1 < y.1) ∧ ∀ i t, (i, t) ∈ found ↔ IsTokenAt s i t) ∧
    (∀ (s : String) (ms : List (List Char)),
      Finds IsPlaceholder s.toList ms ↔ (tokens s).map String.toList = ms) := by
  refine ⟨fun a b hb => tokens_append hb a, fun s => ?_, fun s ms => ?_⟩
  · obtain ⟨found, htokens, hordered, hmem⟩ := exists_places s.toList
    -- The places of the characters are those of the text.
    refine ⟨found.map fun x => (x.1, String.ofList x.2), ?_, ?_, fun i t => ?_⟩
    · rw [tokens, ← htokens, List.map_map, List.map_map]
      rfl
    · rw [List.pairwise_map]
      exact hordered
    · rw [isTokenAt_iff, ← hmem, List.mem_map]
      constructor
      · intro hfound
        obtain ⟨x, hx, heq⟩ := hfound
        obtain ⟨hi, ht⟩ := Prod.mk.inj heq
        rw [← hi, ← ht, String.toList_ofList]
        exact hx
      · intro hit
        exact ⟨_, hit, by rw [String.ofList_toList]⟩
  · rw [map_toList_tokens]
    exact ⟨(finds_tokenChars s.toList).unique, fun h => h ▸ finds_tokenChars s.toList⟩

/-- At signs in a row, one with no word, one inside of a word and letters beyond ASCII. -/
theorem tokens_exact_at_signs :
    IsApart ", a@ü_1@".toList ∧
      tokens ("@@é @ x@y@" ++ ", a@ü_1@") = ["@é", "@y"] ++ ["@ü_1"] ∧
      Finds IsPlaceholder "@@é @ x@y@".toList [['@', 'é'], ['@', 'y']] := by
  have hapart : IsApart ", a@ü_1@".toList := by
    intro c hc
    obtain rfl := Option.some.inj hc
    decide
  refine ⟨hapart, ?_, ?_⟩
  · rw [tokens_exact.1 _ _ hapart]
    decide +kernel
  · rw [tokens_exact.2.2]
    decide +kernel

end SqlAssembly.Placeholder
