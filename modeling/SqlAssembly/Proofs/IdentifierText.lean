import SqlAssembly.Ident

/-! # Identifiers are read exactly as they are written

Reading a text and writing an identifier undo each other.  A bare segment ends at the next dot, a
quoted one at the first backtick that is not doubled, so what a segment is written as never runs on
into what follows it.

* `Ident.Part.IsValid`, `Ident.IsValid`   the identifiers that can be written
* `Ident.IsDottedText`                    the texts that spell one, without the reader
* `Ident.eq_of_readQuoted?`, `Ident.readQuoted?_escape_append`   the name in front of a backtick
* `Ident.readPart_eq_ok`, `Ident.readPart_chars_append`          one segment
* `Ident.readParts_eq_ok`, `Ident.readParts_joinParts`           all segments
* `Ident.isValid_and_sql_of_read`, `Ident.read_sql`              identifiers, in both directions
* `Ident.read_eq_ok_iff`   reading undoes writing, and all other texts are refused -/

namespace SqlAssembly.Ident

/-! ## What can be written -/

/-- A letter of ASCII. -/
def IsLetter (c : Char) : Prop := ('A' ≤ c ∧ c ≤ 'Z') ∨ ('a' ≤ c ∧ c ≤ 'z')

/-- A digit of ASCII. -/
def IsDigit (c : Char) : Prop := '0' ≤ c ∧ c ≤ '9'

/-- A letter or `_`, then letters, digits, `_` and `$`. -/
def IsBareName (name : List Char) : Prop :=
  ∃ c cs, name = c :: cs ∧ (IsLetter c ∨ c = '_') ∧
    ∀ d ∈ cs, IsLetter d ∨ IsDigit d ∨ d = '_' ∨ d = '$'

/-- A name that can stand between backticks. -/
def IsQuotedName (name : List Char) : Prop := name ≠ [] ∧ Char.ofNat 0 ∉ name

/-- Whether a segment can be written. -/
def Part.IsValid : Part → Prop
  | bare name => IsBareName name.toList
  | quoted name => IsQuotedName name.toList

/-- Whether an identifier can be written. -/
def IsValid (i : Ident) : Prop := i.parts ≠ [] ∧ ∀ p ∈ i.parts, p.IsValid

/-- A name between backticks, each backtick in it doubled. -/
def quotedText (name : List Char) : String :=
  "`" ++ String.ofList (name.flatMap fun c => if c = backtick then [backtick, backtick] else [c]) ++
    "`"

/-- Segments with dots between them, each one a bare name or a name between backticks. -/
def IsDottedText (s : String) : Prop :=
  ∃ segments, segments ≠ [] ∧ s = ".".intercalate segments ∧
    ∀ x ∈ segments, IsBareName x.toList ∨ ∃ name, IsQuotedName name ∧ x = quotedText name

/-! ## Characters -/

theorem isAlpha_iff {c : Char} : c.isAlpha = true ↔ IsLetter c := by
  show (decide (c.val ≥ 'A'.val ∧ c.val ≤ 'Z'.val) ||
    (decide (c.val ≥ 'a'.val) && decide (c.val ≤ 'z'.val))) = true ↔ IsLetter c
  simp [IsLetter, Char.le_def]

theorem isDigit_iff {c : Char} : c.isDigit = true ↔ IsDigit c := by
  simp [Char.isDigit, IsDigit, Char.le_def]

theorem isBareStart_iff {c : Char} : isBareStart c = true ↔ IsLetter c ∨ c = '_' := by
  simp [isBareStart, isAlpha_iff, or_comm]

theorem isBareContinue_iff {c : Char} :
    isBareContinue c = true ↔ IsLetter c ∨ IsDigit c ∨ c = '_' ∨ c = '$' := by
  simp only [isBareContinue, Char.isAlphanum, Bool.or_eq_true, decide_eq_true_eq, isAlpha_iff,
    isDigit_iff]
  rw [or_comm, or_assoc]

/-- What a bare name may go on with is neither a dot, nor a backtick, nor NUL. -/
private theorem ne_of_isBareContinue {c d : Char} (hc : isBareContinue c = true)
    (hd : isBareContinue d = false) : c ≠ d := by
  rintro rfl
  rw [hc] at hd
  exact Bool.noConfusion hd

private theorem isBareContinue_of_isBareStart {c : Char} (h : isBareStart c = true) :
    isBareContinue c = true := by
  rw [isBareStart_iff] at h
  rw [isBareContinue_iff]
  rcases h with h | h
  · exact .inl h
  · exact .inr (.inr (.inl h))

/-- All characters of a bare name are ones that it may go on with. -/
theorem IsBareName.isBareContinue {name : List Char} (h : IsBareName name) {c : Char}
    (hc : c ∈ name) : isBareContinue c = true := by
  obtain ⟨d, ds, rfl, hd, hds⟩ := h
  rcases List.mem_cons.1 hc with rfl | hc
  · exact isBareContinue_of_isBareStart (isBareStart_iff.2 hd)
  · exact isBareContinue_iff.2 (hds c hc)

/-- A bare name lacks every other character. -/
theorem IsBareName.not_mem {name : List Char} (h : IsBareName name) {c : Char}
    (hc : Ident.isBareContinue c = false) : c ∉ name := fun hmem =>
  ne_of_isBareContinue (h.isBareContinue hmem) hc rfl

/-! ## Quoted segments -/

private theorem escape_eq_flatMap (name : List Char) :
    escape name = name.flatMap fun c => if c = backtick then [backtick, backtick] else [c] := by
  induction name with
  | nil => rfl
  | cons c cs ih =>
    rw [escape, List.flatMap_cons, ih]
    split
    · rfl
    · rfl

private theorem mem_escape {name : List Char} {c : Char} : c ∈ escape name ↔ c ∈ name := by
  rw [escape_eq_flatMap, List.mem_flatMap]
  constructor
  · rintro ⟨d, hd, hc⟩
    -- Doubling a backtick adds no other character.
    split at hc
    · rename_i htick
      simp only [List.mem_cons, List.not_mem_nil, or_false, or_self] at hc
      rwa [hc, ← htick]
    · rwa [List.mem_singleton.1 hc]
  · intro hc
    refine ⟨c, hc, ?_⟩
    split
    · rename_i htick
      rw [htick]
      exact List.mem_cons_self
    · exact List.mem_singleton_self c

/-- A written name is read up to its closing backtick, which is the first one that is not
    doubled. -/
theorem readQuoted?_escape_append (name : List Char) {rest : List Char}
    (hrest : rest.head? ≠ some backtick) :
    readQuoted? (escape name ++ backtick :: rest) = some (name, rest) := by
  induction name with
  | nil =>
    cases rest with
    | nil => rfl
    | cons d rest =>
      -- The backtick is the closing one only if no other is right behind it.
      have hd : d ≠ backtick := fun h => hrest (congrArg some h)
      rw [escape, List.nil_append, readQuoted?, if_pos rfl, if_neg hd]
  | cons c cs ih =>
    rw [escape]
    split
    · rename_i hc
      -- A backtick was doubled, and the two are read as one.
      rw [List.cons_append, List.cons_append, readQuoted?, if_pos rfl, if_pos rfl, ih, hc]
      rfl
    · rename_i hc
      -- The reader looks at the character behind `c` as well, so there has to be one.
      obtain ⟨d, tail, htail⟩ : ∃ d tail, escape cs ++ backtick :: rest = d :: tail :=
        List.exists_cons_of_ne_nil (List.append_ne_nil_of_right_ne_nil _ (List.cons_ne_nil _ _))
      rw [htail] at ih
      rw [List.cons_append, htail, readQuoted?, if_neg hc, ih]
      rfl

/-- What is read in front of a closing backtick is a written name. -/
theorem eq_of_readQuoted? {cs name rest : List Char} (h : readQuoted? cs = some (name, rest)) :
    cs = escape name ++ backtick :: rest ∧ rest.head? ≠ some backtick := by
  -- By the cases of the reader: a doubled backtick, the closing one, or another character.
  fun_induction readQuoted? cs generalizing name with
  | case1 => exact nomatch h
  | case2 =>
    obtain ⟨rfl, rfl⟩ := Prod.mk.inj (Option.some.inj h)
    exact ⟨rfl, nofun⟩
  | case3 => exact nomatch h
  | case4 cs ih =>
    obtain ⟨⟨name, rest⟩, hread, heq⟩ := Option.map_eq_some_iff.1 h
    obtain ⟨rfl, rfl⟩ := Prod.mk.inj heq
    obtain ⟨hcs, hrest⟩ := ih hread
    refine ⟨?_, hrest⟩
    rw [escape, if_pos rfl, hcs]
    rfl
  | case5 d cs hd =>
    obtain ⟨rfl, rfl⟩ := Prod.mk.inj (Option.some.inj h)
    exact ⟨rfl, fun htick => hd (Option.some.inj htick)⟩
  | case6 c d cs hc ih =>
    obtain ⟨⟨name, rest⟩, hread, heq⟩ := Option.map_eq_some_iff.1 h
    obtain ⟨rfl, rfl⟩ := Prod.mk.inj heq
    obtain ⟨hcs, hrest⟩ := ih hread
    refine ⟨?_, hrest⟩
    rw [escape, if_neg hc, hcs]
    rfl

/-! ## Segments -/

/-- Whether a text is at its end or goes on with a dot. -/
def Ends (rest : List Char) : Prop := ∀ c ∈ rest.head?, c = '.'

theorem Ends.ne_backtick {rest : List Char} (h : Ends rest) : rest.head? ≠ some backtick := by
  intro htick
  exact absurd (h backtick htick) (by decide)

/-- What is read up to the next dot is a bare name. -/
private theorem readBarePart_eq_ok {cs rest : List Char} {p : Part}
    (h : readBarePart cs = .ok (p, rest)) :
    ∃ name, p = .bare name ∧ IsBareName name.toList ∧ cs = name.toList ++ rest := by
  rw [readBarePart] at h
  split at h
  · exact nomatch h
  · rename_i c name hname
    split at h
    · rename_i hstart
      split at h
      · exact nomatch h
      · rename_i hrest
        obtain ⟨rfl, rfl⟩ := Prod.mk.inj (Except.ok.inj h)
        -- None of the characters up to the dot was found at fault.
        refine ⟨String.ofList (c :: name), rfl, ?_, ?_⟩
        · rw [String.toList_ofList]
          refine ⟨c, name, rfl, isBareStart_iff.1 hstart, fun d hd => ?_⟩
          have hd' := List.find?_eq_none.1 hrest d hd
          rw [Bool.not_eq_true', Bool.not_eq_false] at hd'
          exact isBareContinue_iff.1 hd'
        · rw [String.toList_ofList, ← hname, List.takeWhile_append_dropWhile]
    · exact nomatch h

/-- A bare name is read up to the dot behind it. -/
private theorem readBarePart_append {name : String} (h : IsBareName name.toList) {rest : List Char}
    (hrest : Ends rest) :
    readBarePart (name.toList ++ rest) = .ok (.bare name, rest) := by
  -- A bare name has no dot, so that all of it is taken up to the next one.
  have hdot : ∀ d ∈ name.toList, decide (d ≠ '.') = true := fun d hd =>
    decide_eq_true (ne_of_isBareContinue (h.isBareContinue hd) (by decide))
  have htake : (name.toList ++ rest).takeWhile (· ≠ '.') = name.toList := by
    rw [List.takeWhile_append_of_pos hdot]
    cases rest with
    | nil => exact List.append_nil _
    | cons c rest =>
      rw [List.takeWhile_cons_of_neg (by simp [hrest c rfl]), List.append_nil]
  have hdrop : (name.toList ++ rest).dropWhile (· ≠ '.') = rest := by
    rw [List.dropWhile_append_of_pos hdot]
    cases rest with
    | nil => rfl
    | cons c rest => exact List.dropWhile_cons_of_neg (by simp [hrest c rfl])
  obtain ⟨c, cs, hname, hc, hcs⟩ := h
  -- No character behind the first one is at fault.
  have hfind : cs.find? (fun d => !isBareContinue d) = none := by
    rw [List.find?_eq_none]
    intro d hd
    rw [isBareContinue_iff.2 (hcs d hd)]
    exact Bool.false_ne_true
  rw [readBarePart, htake, hdrop, hname]
  simp only [isBareStart_iff.2 hc, hfind]
  rw [← hname, String.ofList_toList]
  rfl

/-- Whether a segment can be written, but for NUL, which is refused for the text as a whole. -/
def Part.IsReadable : Part → Prop
  | bare name => IsBareName name.toList
  | quoted name => name.toList ≠ []

/-- What is read as a segment is the text of that segment. -/
theorem readPart_eq_ok {cs rest : List Char} {p : Part} (h : readPart cs = .ok (p, rest)) :
    p.IsReadable ∧ cs = p.chars ++ rest := by
  -- Without a backtick in front it is a bare name.
  have hbare : ∀ {cs}, readBarePart cs = .ok (p, rest) → p.IsReadable ∧ cs = p.chars ++ rest := by
    intro cs h
    obtain ⟨name, rfl, hname, rfl⟩ := readBarePart_eq_ok h
    exact ⟨hname, rfl⟩
  cases cs with
  | nil => exact hbare h
  | cons c cs =>
    rw [readPart] at h
    split at h
    · rename_i hc
      rw [readQuotedPart] at h
      split at h
      · exact nomatch h
      · exact nomatch h
      · rename_i name rest' hne hread
        obtain ⟨rfl, rfl⟩ := Prod.mk.inj (Except.ok.inj h)
        obtain ⟨rfl, -⟩ := eq_of_readQuoted? hread
        -- Nothing between the backticks is an error of its own.
        have hname : name ≠ [] := by
          rintro rfl
          exact hne rfl
        constructor
        · rwa [Part.IsReadable, String.toList_ofList]
        · rw [Part.chars, String.toList_ofList, hc]
          simp
    · exact hbare h

/-- The text of a segment is read as that segment, up to the dot behind it. -/
theorem readPart_chars_append {p : Part} (hp : p.IsReadable) {rest : List Char}
    (hrest : Ends rest) : readPart (p.chars ++ rest) = .ok (p, rest) := by
  cases p with
  | bare name =>
    have hread := readBarePart_append hp hrest
    obtain ⟨c, cs, hname, hc, -⟩ := hp
    -- A bare name begins with no backtick, which tells the two kinds apart.
    have htick : c ≠ backtick :=
      ne_of_isBareContinue (isBareContinue_of_isBareStart (isBareStart_iff.2 hc)) (by decide)
    rw [Part.chars]
    rw [hname] at hread ⊢
    rw [List.cons_append, readPart, if_neg htick, ← List.cons_append, hread]
  | quoted name =>
    have hread := readQuoted?_escape_append name.toList hrest.ne_backtick
    obtain ⟨c, cs, hname⟩ := List.exists_cons_of_ne_nil hp
    have hchars : (Part.quoted name).chars ++ rest =
        backtick :: (escape name.toList ++ backtick :: rest) := by
      simp [Part.chars]
    rw [hchars, readPart, if_pos rfl, readQuotedPart, hread]
    simp only [hname]
    rw [← hname, String.ofList_toList]

/-! ## Identifiers -/

theorem joinParts_cons_cons (p q : Part) (ps : List Part) :
    joinParts (p :: q :: ps) = p.chars ++ '.' :: joinParts (q :: ps) := rfl

private theorem chars_ne_nil {p : Part} (h : p.IsReadable) : p.chars ≠ [] := by
  cases p with
  | bare name =>
    obtain ⟨c, cs, hname, -⟩ := h
    rw [Part.chars, hname]
    exact List.cons_ne_nil c cs
  | quoted name => exact List.cons_ne_nil _ _

/-- No segment is empty, so a text has as many characters as segments at least. -/
private theorem length_le_length_joinParts {ps : List Part} (h : ∀ p ∈ ps, p.IsReadable) :
    ps.length ≤ (joinParts ps).length := by
  induction ps with
  | nil => exact Nat.zero_le _
  | cons p ps ih =>
    have hp := List.length_pos_iff.2 (chars_ne_nil (h p List.mem_cons_self))
    have hps := ih fun q hq => h q (List.mem_cons_of_mem p hq)
    cases ps with
    | nil => exact hp
    | cons q qs =>
      rw [joinParts_cons_cons]
      simp only [List.length_append, List.length_cons] at hps ⊢
      omega

section

variable {fuel : Nat} {cs rest : List Char} {p : Part}

/-- A text that is no segment is refused. -/
private theorem readParts_of_error {e : Fault} (h : readPart cs = .error e) :
    readParts (fuel + 1) cs = .error e := by
  rw [readParts, h]
  rfl

/-- A segment may stand alone. -/
private theorem readParts_of_end (h : readPart cs = .ok (p, [])) :
    readParts (fuel + 1) cs = .ok [p] := by
  rw [readParts, h]
  rfl

/-- Behind a dot there have to be more segments. -/
private theorem readParts_of_dot (h : readPart cs = .ok (p, '.' :: rest)) :
    readParts (fuel + 1) cs =
      if rest.isEmpty then .error .trailingDot else (readParts fuel rest).map (p :: ·) := by
  rw [readParts, h]
  cases rest with
  | nil => rfl
  | cons d rest =>
    cases hmore : readParts fuel (d :: rest) with
    | error e => simp [bind, Except.bind, Except.map, hmore]
    | ok ps => simp [bind, Except.bind, Except.map, hmore]

/-- Nothing but a dot may follow a segment. -/
private theorem readParts_of_ne_dot {c : Char} (hc : c ≠ '.')
    (h : readPart cs = .ok (p, c :: rest)) : readParts (fuel + 1) cs = .error .notSeparated := by
  rw [readParts, h]
  exact if_neg hc

end

/-- What is read as segments is their text. -/
theorem readParts_eq_ok {fuel : Nat} {cs : List Char} {ps : List Part}
    (h : readParts fuel cs = .ok ps) :
    ps ≠ [] ∧ (∀ p ∈ ps, p.IsReadable) ∧ cs = joinParts ps := by
  -- Each segment takes fuel, and what is behind its dot is read with the rest.
  induction fuel generalizing cs ps with
  | zero => exact nomatch h
  | succ fuel ih =>
    cases hread : readPart cs with
    | error e =>
      rw [readParts_of_error hread] at h
      exact nomatch h
    | ok front =>
      obtain ⟨p, _ | ⟨c, rest⟩⟩ := front
      · -- the last segment
        obtain ⟨hp, hcs⟩ := readPart_eq_ok hread
        rw [readParts_of_end hread] at h
        obtain rfl := Except.ok.inj h
        rw [List.append_nil] at hcs
        refine ⟨List.cons_ne_nil _ _, fun q hq => ?_, hcs⟩
        rwa [List.mem_singleton.1 hq]
      · -- a segment with a character behind it, which has to be a dot
        obtain ⟨hp, hcs⟩ := readPart_eq_ok hread
        by_cases hc : c = '.'
        · subst hc
          rw [readParts_of_dot hread] at h
          split at h
          · exact nomatch h
          · cases hparts : readParts fuel rest with
            | error e =>
              rw [hparts] at h
              exact nomatch h
            | ok qs =>
              rw [hparts] at h
              obtain rfl : p :: qs = ps := Except.ok.inj h
              obtain ⟨hne, hqs, rfl⟩ := ih hparts
              obtain ⟨q, qs, rfl⟩ := List.exists_cons_of_ne_nil hne
              exact ⟨List.cons_ne_nil _ _, List.forall_mem_cons.2 ⟨hp, hqs⟩, hcs⟩
        · rw [readParts_of_ne_dot hc hread] at h
          exact nomatch h

/-- The text of segments is read as these segments. -/
theorem readParts_joinParts {ps : List Part} (hne : ps ≠ []) (h : ∀ p ∈ ps, p.IsReadable)
    {fuel : Nat} (hfuel : ps.length ≤ fuel) : readParts fuel (joinParts ps) = .ok ps := by
  induction ps generalizing fuel with
  | nil => exact absurd rfl hne
  | cons p ps ih =>
    obtain ⟨hp, hps⟩ := List.forall_mem_cons.1 h
    obtain ⟨fuel, rfl⟩ : ∃ n, fuel = n + 1 :=
      Nat.exists_eq_add_of_le' (Nat.le_trans (Nat.succ_le_succ (Nat.zero_le _)) hfuel)
    cases ps with
    | nil =>
      have hend : Ends [] := nofun
      have hread := readPart_chars_append hp hend
      rw [List.append_nil] at hread
      exact readParts_of_end hread
    | cons q qs =>
      -- The segment ends at the dot in front of the next one.
      have hdot : Ends ('.' :: joinParts (q :: qs)) := fun c hc => (Option.some.inj hc).symm
      -- A dot at the end would be an error, but a segment follows it.
      have hrest : (joinParts (q :: qs)).isEmpty = false := by
        have hlen := length_le_length_joinParts hps
        rw [List.length_cons] at hlen
        rw [List.isEmpty_eq_false_iff]
        exact List.length_pos_iff.1 (by omega)
      rw [joinParts_cons_cons, readParts_of_dot (readPart_chars_append hp hdot), hrest,
        ih (List.cons_ne_nil _ _) hps (Nat.le_of_succ_le_succ hfuel)]
      rfl

private theorem mem_joinParts {ps : List Part} {c : Char} (hc : c ≠ '.') :
    c ∈ joinParts ps ↔ ∃ p ∈ ps, c ∈ p.chars := by
  induction ps with
  | nil => simp [joinParts]
  | cons p ps ih =>
    cases ps with
    | nil => simp [joinParts]
    | cons q qs => simp only [joinParts_cons_cons, List.mem_append, List.mem_cons, hc, false_or, ih,
        exists_eq_or_imp]

/-- A segment can be written if it can be read and its text has no NUL. -/
theorem Part.isValid_iff {p : Part} : p.IsValid ↔ p.IsReadable ∧ Char.ofNat 0 ∉ p.chars := by
  cases p with
  | bare name =>
    -- A bare name has no NUL anyway.
    exact ⟨fun h => ⟨h, h.not_mem (by decide)⟩, And.left⟩
  | quoted name =>
    have htick : Char.ofNat 0 ≠ backtick := by decide
    have hchars : Char.ofNat 0 ∈ (quoted name).chars ↔ Char.ofNat 0 ∈ name.toList := by
      simp [chars, mem_escape, htick]
    rw [hchars]
    rfl

/-- Segments can be written if they can be read and their text has no NUL. -/
private theorem forall_isValid_iff {ps : List Part} :
    (∀ p ∈ ps, p.IsValid) ↔ (∀ p ∈ ps, p.IsReadable) ∧ Char.ofNat 0 ∉ joinParts ps := by
  rw [mem_joinParts (by decide)]
  simp only [Part.isValid_iff, not_exists, not_and, forall_and]

/-- An identifier that was read can be written, and is written as the same text. -/
theorem isValid_and_sql_of_read {s : String} {i : Ident} (h : read s = .ok i) :
    i.IsValid ∧ i.sql = s := by
  unfold read at h
  dsimp only at h
  split at h
  · exact nomatch h
  · split at h
    · exact nomatch h
    · -- An empty text and one with a NUL are refused before they are split.
      rename_i hnul
      rw [List.contains_iff_mem] at hnul
      cases hparts : readParts s.toList.length s.toList with
      | error e =>
        rw [hparts] at h
        exact nomatch h
      | ok ps =>
        rw [hparts] at h
        obtain rfl := Except.ok.inj h
        obtain ⟨hne, hps, hs⟩ := readParts_eq_ok hparts
        refine ⟨⟨hne, forall_isValid_iff.2 ⟨hps, hs ▸ hnul⟩⟩, ?_⟩
        rw [sql, ← hs, String.ofList_toList]

/-- The text of an identifier that can be written is read as that identifier. -/
theorem read_sql {i : Ident} (h : i.IsValid) : read i.sql = .ok i := by
  obtain ⟨hne, hvalid⟩ := h
  obtain ⟨hps, hnul⟩ := forall_isValid_iff.1 hvalid
  have hlen := length_le_length_joinParts hps
  have hpos := List.length_pos_iff.2 hne
  -- Neither of the first two checks refuses the text.
  have hchars : joinParts i.parts ≠ [] := List.length_pos_iff.1 (by omega)
  unfold read
  rw [sql, String.toList_ofList, if_neg (by rwa [List.isEmpty_iff]),
    if_neg (by rwa [List.contains_iff_mem]), readParts_joinParts hne hps hlen]
  rfl

/-! ## Texts that spell an identifier -/

/-- The text of a segment. -/
def Part.text (p : Part) : String := String.ofList p.chars

private theorem text_quoted (name : String) : (Part.quoted name).text = quotedText name.toList := by
  have htick : String.ofList [backtick] = "`" := by decide
  -- A backtick in front of the characters is one in front of the text.
  have hcons : ∀ cs : List Char, String.ofList (backtick :: cs) = "`" ++ String.ofList cs := by
    intro cs
    rw [← htick, ← String.ofList_append]
    rfl
  rw [Part.text, Part.chars, quotedText, ← escape_eq_flatMap, List.cons_append, hcons,
    String.ofList_append, htick, String.append_assoc]

/-- The text of an identifier is that of its segments with dots between them. -/
theorem sql_eq_intercalate (i : Ident) : i.sql = ".".intercalate (i.parts.map Part.text) := by
  obtain ⟨ps⟩ := i
  rw [sql]
  dsimp only
  induction ps with
  | nil => rfl
  | cons p ps ih =>
    -- A dot stands between two segments only.
    cases ps with
    | nil => simp [joinParts, Part.text]
    | cons q qs =>
      have hdot : ∀ cs : List Char, String.ofList ('.' :: cs) = "." ++ String.ofList cs := by
        intro cs
        rw [← List.singleton_append, String.ofList_append]
      rw [joinParts_cons_cons, String.ofList_append, hdot, ih, List.map_cons, List.map_cons,
        List.map_cons, String.intercalate_cons_cons, String.append_assoc]
      rfl

/-- The texts of the identifiers that can be written are those made of bare and quoted segments. -/
theorem isDottedText_iff {s : String} : IsDottedText s ↔ ∃ i : Ident, i.IsValid ∧ i.sql = s := by
  constructor
  · rintro ⟨segments, hne, rfl, hsegments⟩
    have hpart : ∀ x ∈ segments, ∃ p : Part, p.IsValid ∧ p.text = x := by
      intro x hx
      rcases hsegments x hx with hbare | ⟨name, hname, rfl⟩
      · exact ⟨.bare x, hbare, String.ofList_toList⟩
      · refine ⟨.quoted (String.ofList name), ?_, ?_⟩
        · rwa [Part.IsValid, String.toList_ofList]
        · rw [text_quoted, String.toList_ofList]
    -- The segments of the text are turned into those of an identifier one by one.
    obtain ⟨ps, hps⟩ : ∃ ps : List Part, (∀ p ∈ ps, p.IsValid) ∧ ps.map Part.text = segments := by
      clear hne hsegments
      induction segments with
      | nil => exact ⟨[], nofun, rfl⟩
      | cons x xs ih =>
        obtain ⟨p, hp, rfl⟩ := hpart x List.mem_cons_self
        obtain ⟨ps, hps, rfl⟩ := ih fun y hy => hpart y (List.mem_cons_of_mem _ hy)
        exact ⟨p :: ps, List.forall_mem_cons.2 ⟨hp, hps⟩, rfl⟩
    obtain ⟨hvalid, rfl⟩ := hps
    refine ⟨⟨ps⟩, ⟨?_, hvalid⟩, sql_eq_intercalate ⟨ps⟩⟩
    rintro rfl
    exact hne rfl
  · rintro ⟨i, ⟨hne, hvalid⟩, rfl⟩
    refine ⟨i.parts.map Part.text, ?_, sql_eq_intercalate i, ?_⟩
    · rwa [Ne, List.map_eq_nil_iff]
    · intro x hx
      obtain ⟨p, hp, rfl⟩ := List.mem_map.1 hx
      cases p with
      | bare name =>
        left
        rw [Part.text, String.toList_ofList]
        exact hvalid _ hp
      | quoted name => exact .inr ⟨name.toList, hvalid _ hp, text_quoted name⟩

/-- A text is read as exactly the identifier that can be written and is written as it.  So the
    texts that are read are the dotted ones, and all others are refused. -/
theorem read_eq_ok_iff (s : String) :
    (∀ i, read s = .ok i ↔ i.IsValid ∧ i.sql = s) ∧
      ((∃ fault, read s = .error fault) ↔ ¬ IsDottedText s) := by
  have hread : ∀ i, read s = .ok i ↔ i.IsValid ∧ i.sql = s := by
    intro i
    constructor
    · exact isValid_and_sql_of_read
    · rintro ⟨hvalid, rfl⟩
      exact read_sql hvalid
  refine ⟨hread, ?_⟩
  rw [isDottedText_iff]
  cases h : read s with
  | ok i => exact ⟨nofun, fun hnone => absurd ⟨i, (hread i).1 h⟩ hnone⟩
  | error fault =>
    refine ⟨?_, fun _ => ⟨fault, rfl⟩⟩
    -- A text that is refused is that of no identifier, or it would be read as that one.
    rintro - ⟨i, hi⟩
    rw [(hread i).2 hi] at h
    exact nomatch h

-- A dot and a doubled backtick inside of backticks belong to the name.
example : read "t.`a.``b`" = .ok ⟨[.bare "t", .quoted "a.`b"]⟩ := by rfl

end SqlAssembly.Ident
