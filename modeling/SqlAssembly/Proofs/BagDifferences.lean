import SqlAssembly.Proofs.BagHistory

/-! # Differences from an imported object

A bag that is made of the fields of an object is compared with the object again.  The import takes
the fields that are numbers or strings and those that are required, and the comparison goes over all
fields of the object.  Both turn a name into the same form and a field into the same value, so a
field that was taken does not differ and one that was not has nothing to compare with.  A value that
is put in later shows up in the line of its own field and in no other.

This takes names that stay apart in lower case: two fields whose names do not would share one value
of the bag.

* `Bag.HasDistinctNames`        fields whose names stay apart in lower case
* `Bag.value?_ofFields_iff`     what the bag has for a field of the object
* `Bag.diffLine_of_value?`      the line of a field that the bag has a value for
* `Bag.diff_eq_diffLine`        differences in one field only
* `Bag.diff_insert_ofFields`    the differences behind a value put in
* `Bag.diff_ofSerialized`       a bag differs from its object where it was changed -/

namespace SqlAssembly

/-! ## Joined texts -/

/-- Empty texts are joined to an empty one. -/
private theorem join_eq_empty {texts : List String} (h : ∀ s ∈ texts, s = "") :
    String.join texts = "" := by
  induction texts with
  | nil => rfl
  | cons s rest ih =>
    rw [String.join_cons, h s List.mem_cons_self, ih fun t ht => h t (List.mem_cons_of_mem s ht)]
    rfl

/-- If the texts of all elements but one are empty, the joined text is that of the one. -/
private theorem join_map_eq_of_mem {α : Type} {xs : List α} {x : α} {text : α → String}
    (hxs : xs.Nodup) (hx : x ∈ xs) (h : ∀ y ∈ xs, y ≠ x → text y = "") :
    String.join (xs.map text) = text x := by
  -- The element stands once, so all others are in front of it or behind it.
  obtain ⟨before, after, rfl⟩ := List.append_of_mem hx
  obtain ⟨hnot, -⟩ := List.nodup_cons.1 (List.nodup_middle.1 hxs)
  rw [List.mem_append, not_or] at hnot
  have hbefore : String.join (before.map text) = "" := by
    refine join_eq_empty (List.forall_mem_map.2 fun y hy => ?_)
    exact h y (List.mem_append_left _ hy) fun heq => hnot.1 (heq ▸ hy)
  have hafter : String.join (after.map text) = "" := by
    refine join_eq_empty (List.forall_mem_map.2 fun y hy => ?_)
    exact h y (List.mem_append_right _ (List.mem_cons_of_mem x hy)) fun heq => hnot.2 (heq ▸ hy)
  rw [List.map_append, List.map_cons, String.join_append, String.join_cons, hbefore, hafter,
    String.append_empty, String.empty_append]

namespace Bag

variable {b : Bag} {name key : String} {current : Json} {v : Value} {fields : Json.Fields}
  {f : String × Json} {required : List String}

/-! ## Fields and their values -/

/-- Whether the names of the fields stay apart in lower case. -/
def HasDistinctNames (fields : Json.Fields) : Prop := (fields.map fun f => normalize f.1).Nodup

/-- Whether a field is taken into the bag: a number or a string, or a required field. -/
def isImported (required : List String) (f : String × Json) : Bool :=
  required.any (Text.equalUpToCase · f.1) || isPlain f.2

theorem HasDistinctNames.nodup (h : HasDistinctNames fields) : fields.Nodup :=
  List.Nodup.of_map _ h

/-- Fields with one name in lower case are one field. -/
private theorem HasDistinctNames.eq_of_normalize_eq (h : HasDistinctNames fields)
    {g : String × Json}
    (hf : f ∈ fields) (hg : g ∈ fields) (hname : normalize f.1 = normalize g.1) : f = g :=
  List.inj_on_of_nodup_map h hf hg hname

/-- A value put in is read under its name, in letters of either case, and under no other. -/
theorem value?_insert (b : Bag) (key : String) (v : Value) (other : String) :
    (b.insert key v).value? other =
      if normalize key = normalize other then some v else b.value? other :=
  value?_assign b (key, some v) other

/-- Where each name is given a value once, the order does not matter. -/
theorem isLast_iff_mem {h : List (String × Option Value)}
    (hnodup : (h.map fun a => normalize a.1).Nodup) :
    IsLast key v h ↔ ∃ name, normalize name = normalize key ∧ (name, some v) ∈ h := by
  constructor
  · rintro ⟨before, name, after, rfl, hname, -⟩
    exact ⟨name, hname, List.mem_append_right before List.mem_cons_self⟩
  · rintro ⟨name, hname, hmem⟩
    obtain ⟨before, after, rfl⟩ := List.append_of_mem hmem
    refine ⟨before, name, after, rfl, hname, fun a ha hsame => ?_⟩
    rw [List.map_append, List.map_cons, List.nodup_middle, List.nodup_cons] at hnodup
    -- A later assignment of this name would be a second one.
    exact hnodup.1 (List.mem_append_right _ (List.mem_map.2 ⟨a, ha, hsame.trans hname.symm⟩))

/-- The bag of an object has the values of the fields that are taken. -/
theorem value?_ofFields_iff (h : HasDistinctNames fields) (hf : f ∈ fields) :
    (ofFields fields required).value? f.1 = some v ↔
      isImported required f = true ∧ .ofJson f.2 = v := by
  let taken := fields.filter (isImported required)
  let pairs := taken.map fun g : String × Json => (g.1, Value.ofJson g.2)
  let assigned := pairs.map fun p : String × Value => (p.1, some p.2)
  -- The bag is what one assignment for each taken field makes of no values.
  have hbag : ofFields fields required = assigned.foldl assign empty :=
    edited_eq_foldl_assign [.collect pairs]
  -- Names that stay apart do so among fewer fields too.
  have hnames : (assigned.map fun a => normalize a.1).Nodup := by
    rw [List.map_map, List.map_map]
    exact List.Nodup.sublist (List.filter_sublist.map _) h
  rw [hbag, value?_foldl_assign_iff, isLast_iff_mem hnames]
  constructor
  · rintro ⟨name, hname, hmem⟩
    obtain ⟨p, hp, hassigned⟩ := List.mem_map.1 hmem
    obtain ⟨g, hg, rfl⟩ := List.mem_map.1 hp
    obtain ⟨hg, htaken⟩ := List.mem_filter.1 hg
    obtain ⟨rfl, hvalue⟩ := Prod.mk.inj hassigned
    -- The field that was assigned under this name is the field itself.
    obtain rfl := h.eq_of_normalize_eq hg hf hname
    exact ⟨htaken, Option.some.inj hvalue⟩
  · rintro ⟨htaken, rfl⟩
    have hmem : f ∈ taken := List.mem_filter.2 ⟨hf, htaken⟩
    exact ⟨f.1, rfl, List.mem_map_of_mem (List.mem_map_of_mem hmem)⟩

/-! ## Lines -/

/-- There is no line for a field that the bag has no other value for. -/
private theorem diffLine_eq_empty
    (h : ∀ v, b.value? name = some v → displayOrMark (.ofJson current) = displayOrMark v) :
    b.diffLine name current = "" := by
  unfold diffLine
  split
  · rfl
  · rfl
  · rename_i incoming _ hvalue
    exact if_pos (h incoming hvalue)

/-- The line of a field that the bag has a value for. -/
theorem diffLine_of_value? (h : b.value? name = some v) (hv : v.isNull = false) :
    b.diffLine name current =
      if displayOrMark (.ofJson current) = displayOrMark v then ""
      else name ++ " : " ++ displayOrMark (.ofJson current) ++ " -> " ++ displayOrMark v ++
        "\n" := by
  unfold diffLine
  rw [h]
  -- Null has a case of its own in the definition.
  cases v with
  | null => cases hv
  | _ => rfl

/-- If the bag has another value for one field at most, the line of that field is all there is. -/
theorem diff_eq_diffLine (h : HasDistinctNames fields) (hf : f ∈ fields)
    (hother : ∀ g ∈ fields, g ≠ f → b.diffLine g.1 g.2 = "") :
    b.diff (.ok (.object fields)) = b.diffLine f.1 f.2 :=
  join_map_eq_of_mem h.nodup hf hother

/-! ## Imported bags -/

/-- No field differs from the bag it was taken into. -/
private theorem diffLine_ofFields (h : HasDistinctNames fields) (hf : f ∈ fields) :
    (ofFields fields required).diffLine f.1 f.2 = "" := by
  refine diffLine_eq_empty fun v hv => ?_
  rw [((value?_ofFields_iff h hf).1 hv).2]

theorem diff_ofFields (h : HasDistinctNames fields) :
    (ofFields fields required).diff (.ok (.object fields)) = "" :=
  join_eq_empty (List.forall_mem_map.2 fun _ hf => diffLine_ofFields h hf)

/-- A value put in under the name of a field leaves the lines of all other fields as they are. -/
theorem diff_insert_ofFields (h : HasDistinctNames fields) (hf : f ∈ fields) (v : Value) :
    ((ofFields fields required).insert f.1 v).diff (.ok (.object fields)) =
      ((ofFields fields required).insert f.1 v).diffLine f.1 f.2 := by
  refine diff_eq_diffLine h hf fun g hg hne => ?_
  have hname : normalize f.1 ≠ normalize g.1 := fun heq => hne (h.eq_of_normalize_eq hf hg heq).symm
  -- Another field is still read with its own value.
  refine diffLine_eq_empty fun w hw => ?_
  rw [value?_insert, if_neg hname] at hw
  rw [((value?_ofFields_iff h hg).1 hw).2]

/-- **A bag differs from its object where it was changed.**  If the names of the fields stay apart
    in lower case, an object can be made a bag whatever fields are required, and the bag does not
    differ from it.  Behind a value put in for a field, there is no difference if the value has the
    text of the field, null and the empty text having the same mark, and else the one line of that
    field. -/
theorem diff_ofSerialized (h : HasDistinctNames fields) (required : List String) :
    ∃ b, ofSerialized (.ok (.object fields)) required = .ok b ∧
      b.diff (.ok (.object fields)) = "" ∧
      ∀ name current v, (name, current) ∈ fields → v.isNull = false →
        (b.insert name v).diff (.ok (.object fields)) =
          if displayOrMark (.ofJson current) = displayOrMark v then ""
          else name ++ " : " ++ displayOrMark (.ofJson current) ++ " -> " ++ displayOrMark v ++
            "\n" := by
  refine ⟨ofFields fields required, rfl, diff_ofFields h, fun name current v hf hv => ?_⟩
  have hvalue : ((ofFields fields required).insert name v).value? name = some v := by
    rw [value?_insert, if_pos rfl]
  rw [diff_insert_ofFields h hf, diffLine_of_value? hvalue hv]

/-- The fields of an invoice: an empty text, null, an array and an integer beyond 64 bits with a
    sign. -/
def invoice : Json.Fields :=
  [("Name", .string ""), ("note", .null), ("tags", .array [.null]),
    ("total", .integer ⟨18446744073709551615, by decide, by decide⟩)]

/-- An invoice behind the mark of an empty text, a note, and the greatest integer of 64 bits. -/
theorem diff_ofSerialized_invoice :
    HasDistinctNames invoice ∧
    ∃ b, ofSerialized (.ok (.object invoice)) ["NOTE", "Tags"] = .ok b ∧
      b.diff (.ok (.object invoice)) = "" ∧
      (b.insert "Name" (.text "<NULL>")).diff (.ok (.object invoice)) = "" ∧
      (b.insert "note" (.bool true)).diff (.ok (.object invoice)) = "note : <NULL> -> true\n" ∧
      (b.insert "total" (.text "9223372036854775807")).diff (.ok (.object invoice)) = "" := by
  have hnames : HasDistinctNames invoice := by
    unfold HasDistinctNames invoice
    decide +kernel
  obtain ⟨b, himport, hsame, hchanged⟩ := diff_ofSerialized hnames ["NOTE", "Tags"]
  refine ⟨hnames, b, himport, hsame, ?_, ?_, ?_⟩
  · rw [hchanged "Name" (.string "") _ (by simp [invoice]) rfl]
    rfl
  · rw [hchanged "note" .null _ (by simp [invoice]) rfl]
    rfl
  · rw [hchanged "total" _ _ (.tail _ (.tail _ (.tail _ (.head _)))) rfl]
    exact if_pos (by decide +kernel)

end Bag

end SqlAssembly
