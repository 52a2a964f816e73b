import SqlAssembly.Derive.Model
import SqlAssembly.Proofs.IdentifierText
import SqlAssembly.Proofs.StatementPieces

/-! # Plain names

A declaration names its table and its columns by plain names, the table by several with dots
between them.  These names go into statements and into placeholders without quotes.  A plain name
is a bare segment to the reader of identifiers and a word to the reader of placeholders, so all
three agree about where it starts and ends.

* `Derive.IsPlainName`                the plain names, without the reader of declarations
* `Derive.IsPlainName.tokens_at`      an at sign with a plain name behind it is one placeholder
* `Derive.read_intercalate`           plain names with dots between them are read as bare segments
* `Derive.readName_eq_ok`, `Derive.readColumn_eq_ok`   what names in a declaration spell -/

namespace SqlAssembly

/-! ## Texts and their segments -/

namespace Text

/-- Pieces with the separator between them are the text that they were cut from. -/
private theorem intercalate_piecesAt (sep : Char) (cs : List Char) :
    [sep].intercalate (piecesAt sep cs) = cs := by
  induction cs with
  | nil => rfl
  | cons c cs ih =>
    -- There is always a first piece, which may be empty.
    have hne : piecesAt sep cs ≠ [] := piecesAt_ne_nil cs
    obtain ⟨p, ps, hps⟩ := List.exists_cons_of_ne_nil hne
    rw [hps] at ih
    rw [piecesAt, hps]
    split
    · rename_i hc
      rw [List.intercalate_cons_cons, ih, hc]
      rfl
    · -- The character belongs to the first piece, whatever is behind that.
      rw [consPiece]
      cases ps with
      | nil =>
        rw [List.intercalate_singleton] at ih ⊢
        rw [ih]
      | cons q qs =>
        rw [List.intercalate_cons_cons] at ih ⊢
        rw [← ih, List.cons_append, List.cons_append]

theorem intercalate_splitAt_dot (s : String) : ".".intercalate (splitAt '.' s) = s := by
  apply String.toList_inj.1
  have hpieces : (splitAt '.' s).map String.toList = piecesAt '.' s.toList := by
    rw [splitAt, List.map_map]
    simp [Function.comp_def]
  rw [String.toList_intercalate, hpieces]
  exact intercalate_piecesAt '.' s.toList

theorem splitAt_ne_nil (sep : Char) (s : String) : splitAt sep s ≠ [] := by
  rw [splitAt, Ne, List.map_eq_nil_iff]
  exact piecesAt_ne_nil s.toList

/-- Trimming brings in no character. -/
theorem mem_of_mem_trimChars {cs : List Char} {c : Char} (h : c ∈ trimChars cs) : c ∈ cs := by
  rw [trimChars, trimRight, List.mem_reverse] at h
  have hleft := List.mem_reverse.1 ((List.dropWhile_sublist isBlank).mem h)
  exact (List.dropWhile_sublist isBlank).mem hleft

/-- A text without blanks is not trimmed. -/
theorem trim_of_not_isBlank {s : String} (h : ∀ c ∈ s.toList, isBlank c = false) : trim s = s := by
  -- Nothing is dropped from the front, and nothing from the front of the reverse.
  have hdrop : ∀ cs : List Char, (∀ c ∈ cs, isBlank c = false) → cs.dropWhile isBlank = cs :=
    fun cs hcs => by
      cases cs with
      | nil => rfl
      | cons c cs => simp [hcs c List.mem_cons_self]
  have hright : s.toList.reverse.dropWhile isBlank = s.toList.reverse :=
    hdrop _ fun c hc => h c (List.mem_reverse.1 hc)
  rw [trim, trimChars, trimLeft, hdrop _ h, trimRight, hright, List.reverse_reverse,
    String.ofList_toList]

/-- A letter of ASCII is a word character, and so are a digit and the low line. -/
private theorem isWord_of_isBare {c : Char} (h : Ident.IsLetter c ∨ Ident.IsDigit c ∨ c = '_') :
    isWord c = true := by
  -- All of them are in ASCII, where a word character is a letter, a digit or the low line.
  have hcode : c.toNat < 0x80 := by
    rcases h with (h | h) | h | rfl
    · exact Nat.lt_of_le_of_lt h.2 (by decide)
    · exact Nat.lt_of_le_of_lt h.2 (by decide)
    · exact Nat.lt_of_le_of_lt h.2 (by decide)
    · decide
  rw [isWord, if_pos hcode, isAsciiWord, Bool.or_eq_true, decide_eq_true_iff, Char.isAlphanum,
    Bool.or_eq_true, Ident.isAlpha_iff, Ident.isDigit_iff, or_assoc]
  exact h

end Text

namespace Derive

/-! ## Plain names -/

/-- A letter or `_`, then letters, digits and `_`. -/
def IsPlainName (name : List Char) : Prop :=
  ∃ c cs, name = c :: cs ∧ (Ident.IsLetter c ∨ c = '_') ∧
    ∀ d ∈ cs, Ident.IsLetter d ∨ Ident.IsDigit d ∨ d = '_'

theorem isPlainName_iff {cs : List Char} : isPlainName cs = true ↔ IsPlainName cs := by
  have hnext : ∀ d : Char, (decide (d = '_') || d.isAlphanum) = true ↔
      Ident.IsLetter d ∨ Ident.IsDigit d ∨ d = '_' := fun d => by
    rw [Bool.or_eq_true, decide_eq_true_iff, Char.isAlphanum, Bool.or_eq_true, Ident.isAlpha_iff,
      Ident.isDigit_iff, or_comm, or_assoc]
  cases cs with
  | nil =>
    constructor
    · intro h
      exact absurd h Bool.false_ne_true
    · rintro ⟨c, cs, heq, -⟩
      exact absurd heq.symm (List.cons_ne_nil c cs)
  | cons c cs =>
    rw [isPlainName, Bool.and_eq_true, Ident.isBareStart_iff, List.all_eq_true]
    simp only [hnext]
    constructor
    · rintro ⟨hc, hcs⟩
      exact ⟨c, cs, rfl, hc, hcs⟩
    · rintro ⟨d, ds, heq, hd, hds⟩
      obtain ⟨rfl, rfl⟩ := List.cons.inj heq
      exact ⟨hd, hds⟩

namespace IsPlainName

/-- A plain name is a bare segment. -/
private theorem isBareName {name : List Char} (h : IsPlainName name) : Ident.IsBareName name := by
  obtain ⟨c, cs, rfl, hc, hcs⟩ := h
  refine ⟨c, cs, rfl, hc, fun d hd => ?_⟩
  rcases hcs d hd with hd | hd | hd
  · exact .inl hd
  · exact .inr (.inl hd)
  · exact .inr (.inr (.inl hd))

/-- A plain name is a word. -/
theorem isWordText {s : String} (h : IsPlainName s.toList) : Text.isWordText s = true := by
  obtain ⟨c, cs, heq, hc, hcs⟩ := h
  rw [Text.isWordText, heq, List.isEmpty_cons, Bool.not_false, Bool.true_and, List.all_eq_true]
  intro d hd
  rcases List.mem_cons.1 hd with rfl | hd
  · exact Text.isWord_of_isBare (hc.imp_right .inr)
  · exact Text.isWord_of_isBare (hcs d hd)

theorem ne_empty {s : String} (h : IsPlainName s.toList) : s ≠ "" := by
  rintro rfl
  obtain ⟨c, cs, heq, -⟩ := h
  exact List.cons_ne_nil c cs heq.symm

/-- An at sign with a plain name behind it is one placeholder. -/
theorem tokens_at {s : String} (h : IsPlainName s.toList) :
    Placeholder.tokens ("@" ++ s) = ["@" ++ s] :=
  Placeholder.tokens_at_word h.isWordText

end IsPlainName

/-- Plain names with dots between them are read as the bare segments that they are, and written
    as they were. -/
theorem read_intercalate {segments : List String} (hne : segments ≠ [])
    (h : ∀ x ∈ segments, IsPlainName x.toList) :
    Ident.read (".".intercalate segments) = .ok ⟨segments.map .bare⟩ ∧
      Ident.sql ⟨segments.map .bare⟩ = ".".intercalate segments := by
  -- Bare segments are written as they are, with dots between them.
  have hsql : Ident.sql ⟨segments.map .bare⟩ = ".".intercalate segments := by
    have htext : ∀ x : String, (Ident.Part.bare x).text = x := fun x => String.ofList_toList
    rw [Ident.sql_eq_intercalate, List.map_map]
    simp [Function.comp_def, htext]
  -- So what is written for them can be read back.
  have hvalid : Ident.IsValid ⟨segments.map .bare⟩ := by
    refine ⟨fun hnil => hne (List.map_eq_nil_iff.1 hnil), fun p hp => ?_⟩
    obtain ⟨x, hx, rfl⟩ := List.mem_map.1 hp
    exact (h x hx).isBareName
  exact ⟨hsql ▸ Ident.read_sql hvalid, hsql⟩

/-- A plain name is read as a single bare segment. -/
theorem IsPlainName.read_eq {s : String} (h : IsPlainName s.toList) :
    Ident.read s = .ok ⟨[.bare s]⟩ ∧ Ident.sql ⟨[.bare s]⟩ = s := by
  have hread := read_intercalate (List.cons_ne_nil s [])
    (List.forall_mem_singleton.2 h : ∀ x ∈ [s], IsPlainName x.toList)
  rwa [String.intercalate_singleton] at hread

/-! ## Names in declarations -/

/-- A computation in two steps succeeds if both do. -/
theorem exists_of_bind_eq_ok {α β ε : Type} {x : Except ε α} {f : α → Except ε β} {b : β}
    (h : x >>= f = .ok b) : ∃ a, x = .ok a ∧ f a = .ok b := by
  cases x with
  | error e => exact nomatch h
  | ok a => exact ⟨a, rfl, h⟩

/-- A name in a declaration is trimmed, and made of plain names with dots between them. -/
theorem readName_eq_ok {role : NameRole} {s name : String} (h : readName role s = .ok name) :
    name = Text.trim s ∧ ∀ x ∈ Text.splitAt '.' name, IsPlainName x.toList := by
  simp only [readName] at h
  split at h
  · cases h
  · split at h
    · -- Each piece between dots passed the check for plain names.
      rename_i hdotted
      obtain rfl := Except.ok.inj h
      refine ⟨rfl, fun x hx => ?_⟩
      rw [Text.splitAt, String.toList_ofList, List.mem_map] at hx
      obtain ⟨p, hp, rfl⟩ := hx
      rw [String.toList_ofList]
      exact isPlainName_iff.1 (List.all_eq_true.1 hdotted p hp)
    · cases h

/-- A name without dots is one plain name. -/
theorem isPlainName_of_readName {role : NameRole} {s name : String}
    (h : readName role s = .ok name) (hdot : '.' ∉ name.toList) : IsPlainName name.toList := by
  -- Without a dot there is only one piece.
  have hsplit : Text.splitAt '.' name = [name] := by
    rw [Text.splitAt, Text.piecesAt_of_not_mem hdot, List.map_singleton, String.ofList_toList]
  exact (readName_eq_ok h).2 name (hsplit ▸ List.mem_singleton_self name)

/-- The name of a column is trimmed, and one plain name. -/
theorem readColumn_eq_ok {s column : String} (h : readColumn s = .ok column) :
    column = Text.trim s ∧ IsPlainName column.toList := by
  obtain ⟨name, hname, h⟩ := exists_of_bind_eq_ok h
  split at h
  · exact nomatch h
  · rename_i hdot
    obtain rfl := Except.ok.inj h
    rw [List.contains_iff_mem] at hdot
    exact ⟨(readName_eq_ok hname).1, isPlainName_of_readName hname hdot⟩

end Derive

end SqlAssembly
