import SqlAssembly.Proofs.ConditionalCalls
import SqlAssembly.Proofs.IdentifierText

/-! # The order of a request is confined

The text that a request orders by goes into the statement as it is, but only if it spells an
identifier.  A scanner that knows nothing of identifiers, only of backticks, then finds every quote
closed and nothing outside of them but letters, digits, `_`, `$` and dots.

* `Ident.outside?`       what stands outside of quotes, found without the reader of identifiers
* `Ident.IsConfined`     the texts that close their quotes and have nothing but names outside
* `Ident.IsDottedText.isConfined`       a text that spells an identifier is confined
* `Query.apply_orderByRequest_eq`       what an order of the request adds -/

namespace SqlAssembly

namespace Ident

/-! ## Outside of quotes -/

/-- What stands outside of quotes in a text, given whether a quote is open in front of it; none if
    one stays open.  A doubled backtick does not close a quote. -/
def outside? : Bool → List Char → Option (List Char)
  | false, [] => some []
  | true, [] => none
  | false, c :: cs => if c = backtick then outside? true cs else (outside? false cs).map (c :: ·)
  | true, [c] => if c = backtick then some [] else none
  | true, c :: d :: cs =>
    if c = backtick then if d = backtick then outside? true cs else outside? false (d :: cs)
    else outside? true (d :: cs)

/-- The characters of names without quotes, and the dot between them. -/
def IsOpenCharacter (c : Char) : Prop := IsLetter c ∨ IsDigit c ∨ c = '_' ∨ c = '$' ∨ c = '.'

/-- Whether all quotes of a text are closed and nothing but names and dots stands outside of
    them. -/
def IsConfined (s : String) : Prop :=
  ∃ outside, outside? false s.toList = some outside ∧ ∀ c ∈ outside, IsOpenCharacter c

variable {cs rest : List Char}

/-- A quote goes on to the first backtick that is not doubled. -/
private theorem outside?_escape_append (name : List Char) (hrest : rest.head? ≠ some backtick) :
    outside? true (escape name ++ backtick :: rest) = outside? false rest := by
  induction name with
  | nil =>
    cases rest with
    | nil => rfl
    | cons d rest =>
      have hd : d ≠ backtick := fun h => hrest (congrArg some h)
      simp [escape, outside?, hd]
  | cons c cs ih =>
    rw [escape]
    split
    · -- A backtick of the name is doubled, so the scanner goes on inside the quote.
      rw [List.cons_append, List.cons_append, outside?, if_pos rfl, if_pos rfl, ih]
    · rename_i hc
      -- The scanner looks at the character behind `c` as well, so there has to be one.
      obtain ⟨d, tail, htail⟩ : ∃ d tail, escape cs ++ backtick :: rest = d :: tail :=
        List.exists_cons_of_ne_nil (List.append_ne_nil_of_right_ne_nil _ (List.cons_ne_nil _ _))
      rw [htail] at ih
      rw [List.cons_append, htail, outside?, if_neg hc, ih]

/-- What has no backtick stands outside of quotes. -/
private theorem outside?_append_of_not_mem (h : backtick ∉ cs) :
    outside? false (cs ++ rest) = (outside? false rest).map (cs ++ ·) := by
  induction cs with
  | nil => exact Option.map_id'.symm
  | cons c cs ih =>
    have hc : c ≠ backtick := fun hc => h (hc ▸ List.mem_cons_self)
    rw [List.cons_append, outside?, if_neg hc, ih fun hmem => h (List.mem_cons_of_mem c hmem),
      Option.map_map]
    rfl

/-- What stands outside of quotes in a segment. -/
def Part.outside : Part → List Char
  | bare name => name.toList
  | quoted _ => []

/-- A segment is quoted as a whole or not at all. -/
private theorem outside?_chars_append {p : Part} (hp : p.IsValid) (hrest : Ends rest) :
    outside? false (p.chars ++ rest) = (outside? false rest).map (p.outside ++ ·) := by
  cases p with
  | bare name => exact outside?_append_of_not_mem (hp.not_mem (by decide))
  | quoted name =>
    -- The quote is opened in front of the name and closed behind it.
    have hchars : (Part.quoted name).chars ++ rest =
        backtick :: (escape name.toList ++ backtick :: rest) := by
      simp [Part.chars]
    rw [hchars, outside?, if_pos rfl, outside?_escape_append _ hrest.ne_backtick]
    exact Option.map_id'.symm

private theorem isOpenCharacter_of_mem_outside {p : Part} (hp : p.IsValid) {c : Char}
    (hc : c ∈ p.outside) : IsOpenCharacter c := by
  cases p with
  | bare name =>
    rcases isBareContinue_iff.1 (IsBareName.isBareContinue hp hc) with h | h | h | h
    · exact .inl h
    · exact .inr (.inl h)
    · exact .inr (.inr (.inl h))
    · exact .inr (.inr (.inr (.inl h)))
  | quoted name => exact absurd hc List.not_mem_nil

/-- The text of segments closes its quotes, and has nothing but names and dots outside. -/
private theorem exists_outside?_joinParts {ps : List Part} (h : ∀ p ∈ ps, p.IsValid) :
    ∃ outside, outside? false (joinParts ps) = some outside ∧
      ∀ c ∈ outside, IsOpenCharacter c := by
  induction ps with
  | nil => exact ⟨[], rfl, nofun⟩
  | cons p ps ih =>
    obtain ⟨hp, hps⟩ := List.forall_mem_cons.1 h
    cases ps with
    | nil =>
      -- The last segment has nothing behind it.
      have hscan : outside? false (p.chars ++ []) = (outside? false []).map (p.outside ++ ·) :=
        outside?_chars_append hp nofun
      refine ⟨p.outside ++ [], ?_, fun c hc => ?_⟩
      · rw [List.append_nil] at hscan
        exact hscan
      · rw [List.append_nil] at hc
        exact isOpenCharacter_of_mem_outside hp hc
    | cons q qs =>
      obtain ⟨outside, houtside, hopen⟩ := ih hps
      -- Behind any other segment stands a dot, which is outside of quotes itself.
      have hdot : Ends ('.' :: joinParts (q :: qs)) := fun c hc => (Option.some.inj hc).symm
      have hne : '.' ≠ backtick := by decide
      refine ⟨p.outside ++ '.' :: outside, ?_, fun c hc => ?_⟩
      · rw [joinParts_cons_cons, outside?_chars_append hp hdot, outside?, if_neg hne, houtside]
        rfl
      · rcases List.mem_append.1 hc with hc | hc
        · exact isOpenCharacter_of_mem_outside hp hc
        · rcases List.mem_cons.1 hc with rfl | hc
          · exact .inr (.inr (.inr (.inr rfl)))
          · exact hopen c hc

/-- A text that spells an identifier is confined. -/
theorem IsDottedText.isConfined {s : String} (h : IsDottedText s) : IsConfined s := by
  obtain ⟨i, ⟨-, hvalid⟩, rfl⟩ := isDottedText_iff.1 h
  rw [IsConfined, sql, String.toList_ofList]
  exact exists_outside?_joinParts hvalid

theorem IsDottedText.ne_empty {s : String} (h : IsDottedText s) : s ≠ "" := by
  rintro rfl
  obtain ⟨i, hvalid, hsql⟩ := isDottedText_iff.1 h
  -- The reader would take the empty text for an identifier.
  have hread : read "" = .ok i := ((read_eq_ok_iff "").1 i).2 ⟨hvalid, hsql⟩
  exact nomatch hread

-- A quote that is closed too early leaves the rest outside, and one that is not closed is no text.
example : outside? false "a.`b`` c`".toList = some "a.".toList := by rfl
example : outside? false "`a`;b".toList = some ";b".toList := by rfl
example : outside? false "a.`b``".toList = none := by rfl

end Ident

namespace Bag

variable {bag : Bag} {t : FieldType} {key : String} {x default : t.Carrier}

/-- What the request offers is read, whatever the default. -/
private theorem get_of_offers (h : bag.Offers key t x) (default : t.Carrier) :
    bag.get t key default = x := by
  rw [get_eq_getD, fetch?_eq_some_iff.2 h, Option.getD_some]

/-- What is read but is not the default is offered by the request. -/
private theorem get_eq_iff_offers (hne : default ≠ x) :
    bag.get t key default = x ↔ bag.Offers key t x := by
  refine ⟨fun h => ?_, fun h => get_of_offers h default⟩
  rw [get_eq_getD] at h
  rw [← fetch?_eq_some_iff]
  -- The default is read if there is nothing else, and it is not the one in question.
  cases hfetch : bag.fetch? t key with
  | none =>
    rw [hfetch] at h
    exact absurd h hne
  | some y =>
    rw [hfetch, Option.getD_some] at h
    rw [h]

end Bag

namespace Query

variable {q : Query} {bag : Bag}

/-- The outcome for a text that spells an identifier is that text with its direction. -/
private theorem orderFor_of_isDottedText {requested : String}
    (h : Ident.IsDottedText (Text.trim requested)) (isAscending : Bool) :
    orderFor requested isAscending =
      .emit (.orderBy (Text.trim requested) (.ofAscending isAscending)) := by
  obtain ⟨i, hvalid, hsql⟩ := Ident.isDottedText_iff.1 h
  rw [orderFor, ((Ident.read_eq_ok_iff _).1 i).2 ⟨hvalid, hsql⟩]
  simp only [hsql]

/-- A text that spells no identifier is dropped. -/
private theorem accept_orderFor_of_not_isDottedText {requested : String}
    (h : ¬ Ident.IsDottedText (Text.trim requested)) (isAscending : Bool) :
    q.accept (orderFor requested isAscending) = q := by
  obtain ⟨fault, hfault⟩ := (Ident.read_eq_ok_iff _).2.2 h
  rw [orderFor, hfault]
  rfl

/-- The order of a request ascends if it offers a flag that is set. -/
private theorem orderFlag_eq_true_iff :
    bag.orderFlag = true ↔ bag.Offers Bag.ascendingKey .bool true :=
  Bag.get_eq_iff_offers (t := .bool) (x := true) Bool.false_ne_true

/-- The order of a request is the text that it offers. -/
private theorem apply_orderByRequest_of_offers (hbag : q.bag = some bag) {s : String}
    (hs : bag.Offers Bag.orderByKey .text s) :
    q.apply .orderByRequest = q.accept (orderFor s bag.orderFlag) := by
  have htext : bag.orderText = s := Bag.get_of_offers hs ""
  show q.accept (.forBag q "order_by" requestedOrder) = _
  rw [Outcome.forBag, hbag]
  dsimp only
  rw [requestedOrder_eq, htext, if_pos (Option.isSome_of_eq_some (Bag.fetch?_eq_some_iff.2 hs))]

/-- A text that spells an identifier is put behind the other orders. -/
private theorem accept_orderFor_of_isDottedText {requested : String}
    (h : Ident.IsDottedText (Text.trim requested)) (isAscending : Bool) :
    q.accept (orderFor requested isAscending) =
      { q with
        builder := q.builder.addFragment .orderBy
          (.text (Text.trim requested ++ if isAscending then " ASC" else " DESC")) } := by
  -- The builder puts `1` for an empty column, which this is not.
  have htext : (if Text.trim requested = "" then "1" else Text.trim requested) ++ " " ++
      (Direction.ofAscending isAscending).sql =
      Text.trim requested ++ if isAscending then " ASC" else " DESC" := by
    rw [if_neg h.ne_empty, String.append_assoc]
    cases isAscending <;> rfl
  rw [orderFor_of_isDottedText h, accept, ← htext]
  rfl

/-- **The order of a request is confined.**  It adds a fragment exactly if the request offers a text
    that spells an identifier but for the blanks at its ends.  This fragment is the text and its
    direction, and nothing else changes.  All quotes of the text are closed, and nothing but
    letters, digits, `_`, `$` and dots stands outside of them. -/
theorem apply_orderByRequest_eq (hbag : q.bag = some bag) :
    (∀ s, bag.Offers Bag.orderByKey .text s → Ident.IsDottedText (Text.trim s) →
      (∃ direction, (direction = " ASC" ∨ direction = " DESC") ∧
          (direction = " ASC" ↔ bag.Offers Bag.ascendingKey .bool true) ∧
          q.apply .orderByRequest =
            { q with
              builder := q.builder.addFragment .orderBy (.text (Text.trim s ++ direction)) }) ∧
        Ident.IsConfined (Text.trim s)) ∧
      (q.apply .orderByRequest = q ↔
        ¬ ∃ s, bag.Offers Bag.orderByKey .text s ∧ Ident.IsDottedText (Text.trim s)) := by
  -- The direction is told from the flag here, and from what the request offers below.
  have hall : ∀ s, bag.Offers Bag.orderByKey .text s → Ident.IsDottedText (Text.trim s) →
      q.apply .orderByRequest =
        { q with
          builder := q.builder.addFragment .orderBy
            (.text (Text.trim s ++ if bag.orderFlag then " ASC" else " DESC")) } := by
    intro s hs hdotted
    rw [apply_orderByRequest_of_offers hbag hs, accept_orderFor_of_isDottedText hdotted]
  refine ⟨fun s hs hdotted => ⟨⟨_, ?_, ?_, hall s hs hdotted⟩, hdotted.isConfined⟩, ?_, ?_⟩
  · cases bag.orderFlag
    · exact .inr rfl
    · exact .inl rfl
  · rw [← orderFlag_eq_true_iff]
    cases bag.orderFlag <;> decide
  · rintro hkeep ⟨s, hs, hdotted⟩
    -- With one fragment more the query would not be the same.
    rw [hall s hs hdotted] at hkeep
    have hsame : q.builder.extend .orderBy _ [] = q.builder := congrArg Query.builder hkeep
    exact Builder.extend_ne_self .orderBy hsame
  · intro hnone
    cases hfetch : (bag.fetch? .text Bag.orderByKey : Option String) with
    | none =>
      show q.accept (.forBag q "order_by" requestedOrder) = q
      rw [Outcome.forBag, hbag]
      dsimp only
      rw [requestedOrder_eq, hfetch]
      rfl
    | some s =>
      have hs : bag.Offers Bag.orderByKey .text s := Bag.fetch?_eq_some_iff.1 hfetch
      rw [apply_orderByRequest_of_offers hbag hs]
      exact accept_orderFor_of_not_isDottedText (fun hdotted => hnone ⟨s, hs, hdotted⟩) _

/-- A request whose order has a statement of its own between backticks. -/
def forgedOrders : Bag :=
  .ofList [("ORDERBY", .text " o.`a``; DROP TABLE b` "), ("asc", .text "True")]

/-- The forged order goes into the statement as one quoted name. -/
theorem apply_orderByRequest_forgedOrders :
    (ofBag ⟨"orders"⟩ forgedOrders).bag = some forgedOrders ∧
      forgedOrders.Offers Bag.orderByKey .text " o.`a``; DROP TABLE b` " ∧
      Ident.IsDottedText (Text.trim " o.`a``; DROP TABLE b` ") ∧
      forgedOrders.Offers Bag.ascendingKey .bool true ∧
      (ofBag ⟨"orders"⟩ forgedOrders).apply .orderByRequest =
        { ofBag ⟨"orders"⟩ forgedOrders with
          builder := Builder.empty.addFragment .orderBy
            (.text "o.`a``; DROP TABLE b` ASC") } ∧
      Ident.IsConfined "o.`a``; DROP TABLE b`" := by
  have htext : forgedOrders.Offers Bag.orderByKey .text " o.`a``; DROP TABLE b` " :=
    ⟨.text " o.`a``; DROP TABLE b` ", rfl, rfl, rfl⟩
  have hflag : forgedOrders.Offers Bag.ascendingKey .bool true := ⟨.text "True", rfl, rfl, rfl⟩
  have hdotted : Ident.IsDottedText (Text.trim " o.`a``; DROP TABLE b` ") := by
    refine Ident.isDottedText_iff.2
      ⟨⟨[.bare "o", .quoted "a`; DROP TABLE b"]⟩, ⟨List.cons_ne_nil _ _, ?_⟩, by decide⟩
    refine List.forall_mem_cons.2 ⟨⟨'o', [], rfl, .inl (.inr (by decide)), nofun⟩, ?_⟩
    exact List.forall_mem_singleton.2 ⟨by decide, by decide⟩
  have horder := apply_orderByRequest_eq (q := ofBag ⟨"orders"⟩ forgedOrders) rfl
  obtain ⟨⟨direction, -, hdirection, happly⟩, hconfined⟩ := horder.1 _ htext hdotted
  rw [hdirection.2 hflag] at happly
  exact ⟨rfl, htext, hdotted, hflag, happly, hconfined⟩

end Query

end SqlAssembly
