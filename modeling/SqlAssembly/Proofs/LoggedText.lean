import Mathlib.Data.List.Infix
import SqlAssembly.Query.Basic

/-! # What is logged of a statement

Rendering reports the text of the statement, cut off if it has more bytes than the settings allow.
The cut is searched from the byte of the limit to the front, and the first boundary between
characters that is met is the last one within the limit; so the characters in front of it are as
many whole ones as the limit holds.

* `lastBoundary_le`, `le_lastBoundary`   the boundary is the last one within the limit
* `IsLongestFront`                       as many characters as some bytes hold
* `isLongestFront_truncateBytes`         they are what is left of a text
* `IsLogged`                             the text that is logged of a statement
* `renderEvents_isReported`              rendering reports it, and nothing if it fails -/

namespace SqlAssembly

variable {s : String} {limit : Nat}

/-! ## Boundaries -/

private theorem byteLength_toList (s : String) : byteLength s.toList = s.utf8ByteSize := by
  -- By induction on the characters, as both add up their bytes.
  have hlist : ∀ cs : List Char, byteLength cs = (String.ofList cs).utf8ByteSize := fun cs => by
    induction cs with
    | nil => rfl
    | cons c cs ih =>
      rw [byteLength, ih, String.ofList_cons, String.utf8ByteSize_append,
        String.utf8ByteSize_singleton]
  rw [hlist, String.ofList_toList]

/-- The boundary is within the limit. -/
theorem lastBoundary_le (s : String) (limit : Nat) :
    (lastBoundary s limit).offset.byteIdx ≤ limit := by
  induction limit with
  | zero => exact Nat.le_refl 0
  | succ k ih =>
    rw [lastBoundary]
    -- The search stops at this byte or goes on to the front.
    split
    · exact Nat.le_refl (k + 1)
    · exact Nat.le_succ_of_le ih

/-- No other boundary within the limit is behind it. -/
theorem le_lastBoundary {k : Nat} (hk : k ≤ limit) (h : String.Pos.Raw.IsValid s ⟨k⟩) :
    k ≤ (lastBoundary s limit).offset.byteIdx := by
  induction limit with
  | zero => exact Nat.le_trans hk (Nat.zero_le _)
  | succ j ih =>
    rw [lastBoundary]
    split
    · exact hk
    · rename_i hnot
      -- This byte is no boundary, so the other one stands before it.
      have hne : k ≠ j + 1 := by
        rintro rfl
        exact hnot h
      exact ih (by omega)

/-- A text goes on behind what stands in front of a boundary. -/
private theorem exists_eq_extract_append (p : s.Pos) :
    ∃ rest, s = s.extract s.startPos p ++ rest ∧
      (s.extract s.startPos p).utf8ByteSize = p.offset.byteIdx := by
  obtain ⟨front, rest, hs, hp⟩ := String.Pos.Raw.isValid_iff_exists_append.1 p.isValid
  have hsize : p.offset.byteIdx = front.utf8ByteSize := congrArg String.Pos.Raw.byteIdx hp
  -- Texts are compared by their bytes, for the cut is made between bytes.
  have hfront : s.extract s.startPos p = front := by
    have hbytes : s.toByteArray = front.toByteArray ++ rest.toByteArray :=
      (congrArg String.toByteArray hs).trans String.toByteArray_append
    apply String.toByteArray_inj.1
    rw [String.toByteArray_extract, hsize, hbytes]
    exact ByteArray.extract_append_size_left.trans ByteArray.extract_zero_size
  exact ⟨rest, hfront ▸ hs, hfront ▸ hsize.symm⟩

/-! ## Cut texts -/

/-- The whole characters at the front of a text that fit into some bytes, as many as do. -/
structure IsLongestFront (limit : Nat) (s front : String) : Prop where
  /-- They stand at the front. -/
  isFront : front.toList <+: s.toList
  /-- They fit. -/
  fits : front.utf8ByteSize ≤ limit
  /-- All others at the front that fit are among them. -/
  longest : ∀ p : String, p.toList <+: s.toList → p.utf8ByteSize ≤ limit → p.toList <+: front.toList

theorem IsLongestFront.unique {p q : String} (hp : IsLongestFront limit s p)
    (hq : IsLongestFront limit s q) : p = q := by
  have hpq := hq.longest p hp.isFront hp.fits
  have hqp := hp.longest q hq.isFront hq.fits
  exact String.toList_inj.1 (List.IsPrefix.eq_of_length_le hpq hqp.length_le)

private theorem isPrefix_toList_iff {p : String} :
    p.toList <+: s.toList ↔ ∃ rest, s = p ++ rest := by
  constructor
  · rintro ⟨rest, hrest⟩
    refine ⟨String.ofList rest, String.toList_inj.1 ?_⟩
    rw [String.toList_append, String.toList_ofList, hrest]
  · rintro ⟨rest, rfl⟩
    exact ⟨rest.toList, String.toList_append.symm⟩

/-- What stands at the front of a text ends at a boundary. -/
private theorem isValid_of_isPrefix {p : String} (h : p.toList <+: s.toList) :
    String.Pos.Raw.IsValid s ⟨p.utf8ByteSize⟩ := by
  obtain ⟨rest, hrest⟩ := isPrefix_toList_iff.1 h
  exact String.Pos.Raw.isValid_iff_exists_append.2 ⟨p, rest, hrest, rfl⟩

/-- Of two fronts of a text the one with fewer bytes is a front of the other one. -/
private theorem isPrefix_of_utf8ByteSize_le {p q : String} (hp : p.toList <+: s.toList)
    (hq : q.toList <+: s.toList) (h : p.utf8ByteSize ≤ q.utf8ByteSize) : p.toList <+: q.toList := by
  rcases List.prefix_or_prefix_of_prefix hp hq with hpq | hqp
  · exact hpq
  · -- The longer one has nothing more, as it has no more bytes.
    obtain ⟨rest, rfl⟩ := isPrefix_toList_iff.1 hqp
    rw [String.utf8ByteSize_append] at h
    have hempty : rest = "" := String.utf8ByteSize_eq_zero_iff.1 (by omega)
    rw [hempty, String.append_empty]

/-- What is left of a text that is cut off is as much as fits. -/
theorem isLongestFront_truncateBytes (limit : Nat) (s : String) :
    IsLongestFront limit s (truncateBytes limit s) := by
  rw [truncateBytes, byteLength_toList]
  split
  · -- Nothing is cut off.
    rename_i hfits
    exact ⟨List.prefix_rfl, hfits, fun p hp _ => hp⟩
  · obtain ⟨rest, hs, hsize⟩ := exists_eq_extract_append (lastBoundary s limit)
    -- What is in front of the boundary is a front, and a longer one that fits would end at a
    -- boundary behind it.
    have hfront : (s.extract s.startPos (lastBoundary s limit)).toList <+: s.toList :=
      isPrefix_toList_iff.2 ⟨rest, hs⟩
    refine ⟨hfront, hsize ▸ lastBoundary_le s limit, fun p hp hfits => ?_⟩
    exact isPrefix_of_utf8ByteSize_le hp hfront
      (hsize ▸ le_lastBoundary hfits (isValid_of_isPrefix hp))

/-! ## Logged texts -/

/-- The text that is logged of a statement: all of it, or as much as the limit holds and dots. -/
inductive IsLogged (sql : String) : Option Nat → String → Prop
  | unlimited : IsLogged sql none sql
  | whole {limit : Nat} (h : sql.utf8ByteSize ≤ limit) : IsLogged sql (some limit) sql
  | cut {limit : Nat} {front : String} (h : limit < sql.utf8ByteSize)
    (hfront : IsLongestFront limit sql front) : IsLogged sql (some limit) (front ++ "...")

theorem isLogged_iff {sql text : String} {limit : Option Nat} :
    IsLogged sql limit text ↔ text = logText sql limit := by
  constructor
  · intro h
    cases h with
    | unlimited => rfl
    | whole h => rw [logText, byteLength_toList, if_neg (Nat.not_lt.2 h)]
    | cut h hfront =>
      -- The cut is the only text that fits and is that long.
      rw [logText, byteLength_toList, if_pos h,
        hfront.unique (isLongestFront_truncateBytes _ sql)]
  · rintro rfl
    cases limit with
    | none => exact .unlimited
    | some limit =>
      rw [logText, byteLength_toList]
      split
      · rename_i h
        exact .cut h (isLongestFront_truncateBytes limit sql)
      · rename_i h
        exact .whole (Nat.not_lt.1 h)

/-- At most three bytes more than the limit are logged. -/
theorem IsLogged.utf8ByteSize_le {sql text : String} (h : IsLogged sql (some limit) text) :
    text.utf8ByteSize ≤ limit + 3 := by
  cases h with
  | whole h => exact Nat.le_add_right_of_le h
  | cut h hfront =>
    rw [String.utf8ByteSize_append]
    exact Nat.add_le_add_right hfront.fits 3

/-! ## What is reported -/

/-- What a result of rendering with a builder is reported by: the text of a statement by one event,
    and an error by none. -/
inductive Builder.IsReported {ε : Type} (b : Builder) : Except ε String → List Event → Prop
  | rendered {sql text : String} (h : IsLogged sql b.config.maxLogBytes text) :
    IsReported b (.ok sql) [.rendered b.config.logLevel b.mode b.params.size text]
  | failed (e : ε) : IsReported b (.error e) []

theorem Builder.isReported_render (b : Builder) : b.IsReported b.render b.renderEvents := by
  rw [renderEvents]
  cases b.render with
  | ok sql => exact .rendered (isLogged_iff.2 rfl)
  | error e => exact .failed e

theorem Builder.IsReported.mapError {ε ε' : Type} {b : Builder} {result : Except ε String}
    {events : List Event} (h : b.IsReported result events) (f : ε → ε') :
    b.IsReported (result.mapError f) events := by
  cases h with
  | rendered h => exact .rendered h
  | failed e => exact .failed (f e)

theorem Query.isReported_render (q : Query) : q.builder.IsReported q.render q.renderEvents := by
  rw [render, renderEvents]
  cases q.violation with
  | some v => exact .failed _
  | none => exact q.builder.isReported_render.mapError Error.configuration

/-- **What is logged of a statement.**  Whether a builder is rendered by itself or with a model, a
    statement that is rendered is reported by exactly one event, of the target `condsql.sql`, and a
    failure by none.  The text of the event is that of the statement if there is no limit or the
    statement fits; otherwise it is as many whole characters of the statement as fit, and dots.  So
    it has at most three bytes more than the limit. -/
theorem renderEvents_isReported :
    (∀ b : Builder, b.IsReported b.render b.renderEvents) ∧
    (∀ q : Query, q.builder.IsReported q.render q.renderEvents) ∧
    ∀ {ε : Type} (b : Builder) (sql : String) (events : List Event),
      b.IsReported (.ok sql : Except ε String) events →
        events.map Event.target = ["condsql.sql"] ∧
          ∃ text, events.flatMap Event.fields = [("mode", b.mode.name),
              ("param_count", String.ofList (Numeral.decimal b.params.size)), ("sql", text)] ∧
            IsLogged sql b.config.maxLogBytes text ∧
              ∀ limit, b.config.maxLogBytes = some limit → text.utf8ByteSize ≤ limit + 3 := by
  refine ⟨Builder.isReported_render, Query.isReported_render, fun b sql events h => ?_⟩
  cases h with
  | rendered h => exact ⟨rfl, _, rfl, h, fun limit hlimit => (hlimit ▸ h).utf8ByteSize_le⟩

/-- With a limit of 15 bytes a statement of 16 is cut in front of its last character, which has two
    bytes. -/
theorem renderEvents_isReported_accentedTable :
    let b := Builder.empty.run
      [.configure { Config.default with maxLogBytes := some 15 }, .table "é"]
    b.render = .ok "SELECT * FROM é" ∧ b.renderEvents.map Event.target = ["condsql.sql"] ∧
      b.renderEvents.flatMap Event.fields =
        [("mode", "Select"), ("param_count", "0"), ("sql", "SELECT * FROM ...")] := by
  intro b
  obtain ⟨hreported, -, hshape⟩ := renderEvents_isReported
  have hrender : b.render = .ok "SELECT * FROM é" := rfl
  have hevents : b.IsReported (.ok "SELECT * FROM é") b.renderEvents := hrender ▸ hreported b
  obtain ⟨htarget, text, hfields, hlogged, -⟩ := hshape b _ _ hevents
  have htext : text = "SELECT * FROM ..." := (isLogged_iff.1 hlogged).trans (by decide)
  have hcount : String.ofList (Numeral.decimal b.params.size) = "0" := by decide +kernel
  rw [hcount, htext] at hfields
  exact ⟨hrender, htarget, hfields⟩

end SqlAssembly
