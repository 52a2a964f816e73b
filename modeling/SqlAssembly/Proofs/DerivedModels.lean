import Mathlib.Data.List.Forall2
import Mathlib.Data.List.Nodup
import SqlAssembly.Proofs.AttributeSettings
import SqlAssembly.Query.Field

/-! # Derived models can be put into statements as they are

What a declaration gives goes into statements without quotes and without another look at it: the
table, the columns, and the columns once more as the names of parameters.  A model is derived only
if all of them are plain names, so the reader of identifiers and the reader of placeholders find in
them just what the declaration meant, and a query never refuses a field of the model.

* `Declaration.fields`, `DeclaredField.skips`   the fields, and which of them get no descriptor
* `Descriptor.Describes`        a descriptor says what its field says
* `Descriptor.IsSafe`           a descriptor can be put into statements
* `describes_of_describe`       the descriptor of a field
* `IsDescribed.addField`        what each field keeps
* `isSafe_of_model_eq_ok`       the same of the whole model, and its table -/

namespace SqlAssembly

/-! ## Names of constants -/

/-- The code points of the blanks. -/
def Text.blankCodes : List Nat :=
  List.range' 9 5 ++ [0x20, 0x85, 0xA0, 0x1680] ++ List.range' 0x2000 11 ++
    [0x2028, 0x2029, 0x202F, 0x205F, 0x3000]

/-- A blank is neither a letter nor a digit. -/
private theorem Text.isAlphanumeric_of_isBlank {c : Char} (h : isBlank c = true) :
    isAlphanumeric c = false := by
  have hcode : c.toNat ∈ blankCodes := by
    simp only [isBlank, Bool.or_eq_true, Bool.and_eq_true, decide_eq_true_eq] at h
    simp only [blankCodes, List.mem_append, List.mem_range'_1, List.mem_cons, List.not_mem_nil,
      or_false]
    omega
  -- There are few enough blanks to look each of them up in the tables of letters.
  have hall : ∀ n ∈ blankCodes, isAlphanumeric (Char.ofNat n) = false := by decide +kernel
  have hchar := hall c.toNat hcode
  rwa [Char.ofNat_toNat] at hchar

namespace Derive

/-- Without a letter or a digit all runs of them are empty. -/
private theorem eq_nil_of_mem_alphanumericRuns {cs : List Char}
    (h : ∀ c ∈ cs, Text.isAlphanumeric c = false) {run : List Char}
    (hrun : run ∈ alphanumericRuns cs) : run = [] := by
  induction cs with
  | nil => exact List.mem_singleton.1 hrun
  | cons c cs ih =>
    rw [alphanumericRuns, h c List.mem_cons_self] at hrun
    -- Every character ends a run that has nothing in it.
    rcases List.mem_cons.1 hrun with hrun | hrun
    · exact hrun
    · exact ih (fun d hd => h d (List.mem_cons_of_mem c hd)) hrun

/-- A name that gives a constant has a letter or a digit. -/
private theorem exists_isAlphanumeric_of_isNameable {name : String}
    (h : isNameable (constantName name) = true) :
    ∃ c ∈ name.toList, Text.isAlphanumeric c = true := by
  by_contra hnone
  have hall : ∀ c ∈ name.toList, Text.isAlphanumeric c = false := fun c hc =>
    Bool.eq_false_iff.2 fun hc' => hnone ⟨c, hc, hc'⟩
  -- Empty runs have no words, and without words the constant is empty.
  have hwords : nameWords name.toList = [] := by
    rw [nameWords, List.flatMap_eq_nil_iff]
    intro run hrun
    rw [eq_nil_of_mem_alphanumericRuns hall hrun]
    rfl
  rw [constantName, hwords] at h
  exact Bool.false_ne_true h

/-- A name that gives a constant is not blank. -/
private theorem trim_ne_empty_of_isNameable {name : String}
    (h : isNameable (constantName name) = true) : Text.trim name ≠ "" := by
  obtain ⟨c, hc, halphanumeric⟩ := exists_isAlphanumeric_of_isNameable h
  have hink : Text.isBlank c = false := Bool.eq_false_iff.2 fun hblank => by
    rw [Text.isAlphanumeric_of_isBlank hblank] at halphanumeric
    exact Bool.false_ne_true halphanumeric
  intro hempty
  -- The letter or digit is no blank, so that trimming leaves it.
  have hmem := Text.mem_trimChars hc hink
  rw [← Text.toList_trim, hempty] at hmem
  exact List.not_mem_nil hmem

/-! ## Descriptors -/

/-- The fields of a declaration. -/
def Declaration.fields (d : Declaration) : List DeclaredField :=
  match d.shape with
  | .named fields => fields
  | _ => []

/-- Whether a field says that it is to be skipped. -/
def DeclaredField.skips (f : DeclaredField) : Bool :=
  (settingsOf f.attributes).contains ⟨"skip", none⟩

/-- A descriptor says what its field says: the column and the key are those of the last settings,
    or else the name of the field. -/
structure Descriptor.Describes (d : Descriptor) (f : DeclaredField) : Prop where
  constant_eq : d.constant = constantName (unraw f.name)
  column_eq : d.column =
    Text.trim ((textOf? "column" (settingsOf f.attributes)).getD (unraw f.name))
  column_eq_name : textOf? "column" (settingsOf f.attributes) = none →
    (∀ c ∈ f.name.toList, Text.isBlank c = false) → d.column = unraw f.name
  key_eq : d.key = (textOf? "name" (settingsOf f.attributes)).getD (unraw f.name)

/-- A descriptor can be put into statements: its column is a plain name, a single bare segment and
    a single placeholder, its key is not blank, and no field made of the two is refused. -/
structure Descriptor.IsSafe (d : Descriptor) : Prop where
  isPlainName : IsPlainName d.column.toList
  read_column : Ident.read d.column = .ok ⟨[.bare d.column]⟩
  sql_column : Ident.sql ⟨[.bare d.column]⟩ = d.column
  tokens_column : Placeholder.tokens ("@" ++ d.column) = ["@" ++ d.column]
  trim_key_ne_empty : Text.trim d.key ≠ ""
  isIncomplete_eq_false : ∀ f : Field, f.name = d.key → f.column = d.column →
    f.isIncomplete = false

/-- A plain column and a key that is not blank are safe. -/
private theorem Descriptor.isSafe_of_isPlainName {d : Descriptor}
    (hcolumn : IsPlainName d.column.toList) (hkey : Text.trim d.key ≠ "") : d.IsSafe := by
  obtain ⟨hread, hsql⟩ := hcolumn.read_eq
  refine ⟨hcolumn, hread, hsql, hcolumn.tokens_at, hkey, fun f hname hfield => ?_⟩
  have hname' : f.name ≠ "" := by
    rw [hname]
    rintro hempty
    rw [hempty] at hkey
    exact hkey rfl
  have hfield' : f.column ≠ "" := hfield ▸ hcolumn.ne_empty
  simp [Field.isIncomplete, hname', hfield']

/-- A name without its mark has no other characters. -/
private theorem mem_of_mem_unraw {name : String} {c : Char} (h : c ∈ (unraw name).toList) :
    c ∈ name.toList := by
  unfold unraw at h
  split at h
  · -- a raw name, behind whose mark is the rest
    rename_i rest hname
    rw [String.toList_ofList] at h
    rw [hname]
    exact List.mem_cons_of_mem _ (List.mem_cons_of_mem _ h)
  · exact h

variable {before : List Descriptor} {f : DeclaredField}

/-- The descriptor of a field whose column is given: its constant is a new one, and its key is
    given by the options or else by the name. -/
private theorem describe_of_column {o : FieldOptions} {d : Descriptor} {column : String}
    (hcolumn : o.column = some column) (h : describe before f o = .ok d) :
    d.column = column ∧ d.constant = constantName (unraw f.name) ∧
      (∀ e ∈ before, e.constant ≠ d.constant) ∧ isNameable d.constant = true ∧
      d.key = o.key.getD (unraw f.name) := by
  simp only [describe, hcolumn, bind, Except.bind] at h
  -- A constant that was there before, or that is no name, is an error.
  split at h
  · exact nomatch h
  · rename_i hnew
    split at h
    · rename_i hnameable
      obtain rfl := Except.ok.inj h
      have hother : ∀ e ∈ before, e.constant ≠ constantName (unraw f.name) := fun e he heq =>
        hnew (List.any_eq_true.2 ⟨e, he, decide_eq_true heq⟩)
      dsimp only
      exact ⟨rfl, rfl, hother, hnameable, rfl⟩
    · exact nomatch h

/-- Without a column the name of the field is taken for it. -/
private theorem exists_of_describe_of_none {o : FieldOptions} {d : Descriptor}
    (hcolumn : o.column = none) (h : describe before f o = .ok d) :
    ∃ column, readName .column (unraw f.name) = .ok column ∧
      describe before f { o with column := some column } = .ok d := by
  simp only [describe, hcolumn] at h
  obtain ⟨column, hread, hrest⟩ := exists_of_bind_eq_ok h
  exact ⟨column, hread, hrest⟩

/-- The descriptor of a field says what the field says, and can be put into statements. -/
theorem describes_of_describe {o : FieldOptions} {d : Descriptor} (hdot : '.' ∉ f.name.toList)
    (ho : o.Says (settingsOf f.attributes)) (h : describe before f o = .ok d) :
    d.Describes f ∧ d.IsSafe := by
  -- A key that is given is not blank, and neither is a name that gives a constant.
  have hkeyInk : ∀ {o' : FieldOptions}, o'.key = o.key → d.key = o'.key.getD (unraw f.name) →
      isNameable (constantName (unraw f.name)) = true → Text.trim d.key ≠ "" := by
    intro o' ho' hkey hnameable
    rw [hkey, ho']
    cases hgiven : o.key with
    | none => exact trim_ne_empty_of_isNameable hnameable
    | some key => exact ho.trim_ne_empty key hgiven
  cases hcolumn : o.column with
  | some column =>
    obtain ⟨rfl, hconstant, -, hnameable, hkey⟩ := describe_of_column hcolumn h
    have hink := hkeyInk rfl hkey (hconstant ▸ hnameable)
    have hplain := ho.isPlainName _ hcolumn
    rw [ho.column_eq, Option.map_eq_some_iff] at hcolumn
    obtain ⟨text, htext, htrim⟩ := hcolumn
    refine ⟨⟨hconstant, ?_, ?_, ho.key_eq ▸ hkey⟩, Descriptor.isSafe_of_isPlainName hplain hink⟩
    · rw [htext, Option.getD_some, htrim]
    · intro hnone
      rw [hnone] at htext
      exact nomatch htext
  | none =>
    obtain ⟨column, hread, hnamed⟩ := exists_of_describe_of_none hcolumn h
    obtain ⟨rfl, hconstant, -, hnameable, hkey⟩ := describe_of_column rfl hnamed
    have hink := hkeyInk rfl hkey (hconstant ▸ hnameable)
    obtain ⟨htrim, -⟩ := readName_eq_ok hread
    -- A name may be several segments with dots between them, but for a field it has no dot.
    have hdotless : '.' ∉ d.column.toList := by
      rw [htrim, Text.toList_trim]
      exact fun hmem => hdot (mem_of_mem_unraw (Text.mem_of_mem_trimChars hmem))
    have hplain := isPlainName_of_readName hread hdotless
    rw [ho.column_eq, Option.map_eq_none_iff] at hcolumn
    refine ⟨⟨hconstant, ?_, fun _ hblank => ?_, ho.key_eq ▸ hkey⟩,
      Descriptor.isSafe_of_isPlainName hplain hink⟩
    · rw [hcolumn, Option.getD_none, htrim]
    · rw [htrim, Text.trim_of_not_isBlank fun c hc => hblank c (mem_of_mem_unraw hc)]

/-- The constant of a descriptor is none of those before it. -/
private theorem ne_of_describe {o : FieldOptions} {d : Descriptor}
    (h : describe before f o = .ok d) : ∀ e ∈ before, e.constant ≠ d.constant := by
  cases hcolumn : o.column with
  | some column => exact (describe_of_column hcolumn h).2.2.1
  | none =>
    obtain ⟨column, -, hnamed⟩ := exists_of_describe_of_none hcolumn h
    exact (describe_of_column rfl hnamed).2.2.1

/-! ## All fields -/

/-- Descriptors are those of fields: one for each field that is not skipped, in their order, with
    different constants, and all of them can be put into statements. -/
structure IsDescribed (fields : List DeclaredField) (descriptors : List Descriptor) : Prop where
  describes : List.Forall₂ Descriptor.Describes descriptors (fields.filter fun f => !f.skips)
  nodup : (descriptors.map (·.constant)).Nodup
  isSafe : ∀ d ∈ descriptors, d.IsSafe

/-- A field adds its descriptor, or none if it is skipped. -/
theorem IsDescribed.addField {fields : List DeclaredField} {after : List Descriptor}
    (hbefore : IsDescribed fields before) (hdot : '.' ∉ f.name.toList)
    (h : addField before f = .ok after) : IsDescribed (fields ++ [f]) after := by
  obtain ⟨hdescribes, hnodup, hsafe⟩ := hbefore
  obtain ⟨o, hoptions, hrest⟩ := exists_of_bind_eq_ok h
  have ho := says_of_optionsOf hoptions
  -- Whether a field is skipped stands in its options as in its settings.
  have hskips : f.skips = o.isSkipped := by
    rw [Bool.eq_iff_iff, DeclaredField.skips, List.contains_iff_mem, ho.isSkipped_iff]
  split at hrest
  · rename_i hskipped
    obtain rfl := Except.ok.inj hrest
    refine ⟨?_, hnodup, hsafe⟩
    simpa [List.filter_append, hskips, hskipped] using hdescribes
  · rename_i hkept
    obtain ⟨d, hd, hafter⟩ := exists_of_bind_eq_ok hrest
    obtain rfl := Except.ok.inj hafter
    obtain ⟨hdf, hdsafe⟩ := describes_of_describe hdot ho hd
    have hnew := ne_of_describe hd
    refine ⟨?_, ?_, ?_⟩
    · have hfilter : (fields ++ [f]).filter (fun f => !f.skips) =
          fields.filter (fun f => !f.skips) ++ [f] := by
        simp [List.filter_append, hskips, hkept]
      rw [hfilter]
      exact List.rel_append hdescribes (.cons hdf .nil)
    · -- The constant of the new descriptor is none of the others, which are all different.
      rw [List.map_append, List.map_singleton, List.nodup_append]
      refine ⟨hnodup, List.nodup_singleton _, fun x hx y hy => ?_⟩
      obtain ⟨e, he, rfl⟩ := List.mem_map.1 hx
      obtain rfl := List.mem_singleton.1 hy
      exact hnew e he
    · intro e he
      rcases List.mem_append.1 he with he | he
      · exact hsafe e he
      · obtain rfl := List.mem_singleton.1 he
        exact hdsafe

/-- The descriptors of all fields are those of the fields. -/
private theorem isDescribed_of_foldlM {fields : List DeclaredField} {descriptors : List Descriptor}
    (hdot : ∀ f ∈ fields, '.' ∉ f.name.toList) (h : fields.foldlM addField [] = .ok descriptors) :
    IsDescribed fields descriptors := by
  have hall := foldlM_induction
    (R := fun done ds => (∀ f ∈ done, '.' ∉ f.name.toList) → IsDescribed done ds) ?_ []
    (fun _ => ⟨.nil, List.nodup_nil, nofun⟩) h
  · exact hall hdot
  · intro done ds f ds' hdone hf hdots
    simp only [List.forall_mem_append, List.forall_mem_singleton] at hdots
    exact (hdone hdots.1).addField hdots.2 hf

/-! ## Models -/

/-- **What is derived can be put into statements.**  If a model is derived and no field has a dot
    in its name, then the table is the trimmed text of its last setting and a list of plain names
    with dots between them, which is what the reader of identifiers makes of it.  There is one
    descriptor for each field that is not skipped, in their order and with different constants;
    each says what its field says, and each is safe. -/
theorem isSafe_of_model_eq_ok {d : Declaration} {m : DerivedModel} (h : d.model = .ok m)
    (hdot : ∀ f ∈ d.fields, '.' ∉ f.name.toList) :
    ((textOf? "table" (settingsOf d.attributes)).map Text.trim = some m.table ∧
      ∃ segments : List String, segments ≠ [] ∧ (∀ x ∈ segments, IsPlainName x.toList) ∧
        m.table = ".".intercalate segments ∧
        Ident.read m.table = .ok ⟨segments.map .bare⟩ ∧
        Ident.sql ⟨segments.map .bare⟩ = m.table) ∧
      List.Forall₂ Descriptor.Describes m.descriptors (d.fields.filter fun f => !f.skips) ∧
      (m.descriptors.map (·.constant)).Nodup ∧
      ∀ c ∈ m.descriptors, c.IsSafe := by
  obtain ⟨table, htable, hrest⟩ := exists_of_bind_eq_ok h
  obtain ⟨hsetting, hplain⟩ := tableOf_eq_ok htable
  -- Only a declaration with named fields has a model.
  split at hrest
  · rename_i fields hshape
    obtain ⟨descriptors, hfold, hmodel⟩ := exists_of_bind_eq_ok hrest
    obtain rfl := Except.ok.inj hmodel
    have hfields : d.fields = fields := by rw [Declaration.fields, hshape]
    rw [hfields] at hdot ⊢
    obtain ⟨hdescribes, hnodup, hsafe⟩ := isDescribed_of_foldlM hdot hfold
    -- Between the dots of the table are plain names, which are read back.
    have hread := read_intercalate (Text.splitAt_ne_nil '.' table) hplain
    rw [Text.intercalate_splitAt_dot] at hread
    exact ⟨⟨hsetting, Text.splitAt '.' table, Text.splitAt_ne_nil '.' table, hplain,
      (Text.intercalate_splitAt_dot table).symm, hread.1, hread.2⟩, hdescribes, hnodup, hsafe⟩
  all_goals exact nomatch hrest

/-- A structure with a raw name, with settings that are repeated and joined, and with a skipped
    field. -/
def itemDeclaration : Declaration where
  name := "Item"
  generics := ""
  attributes := [⟨"table", some "items"⟩, ⟨"table", some " shop.items "⟩]
  shape := .named
    [⟨"r#type", "i16", "pub", []⟩,
      ⟨"unitPrice", "Option<f32>", "", [⟨"column = \" price \", name", some "unitPrice"⟩,
        ⟨"column", some " Unit_Price "⟩]⟩,
      ⟨"note", "String", "", [⟨"skip", none⟩]⟩]

/-- The table and both columns are read as what they are, and both fields are complete. -/
theorem isSafe_of_model_eq_ok_item :
    ∃ m, itemDeclaration.model = .ok m ∧
      (∀ f ∈ itemDeclaration.fields, '.' ∉ f.name.toList) ∧
      m.descriptors.map (fun c => (c.constant, c.key, c.column)) =
        [("TYPE", "type", "type"), ("UNIT_PRICE", "unitPrice", "Unit_Price")] ∧
      Ident.read m.table = .ok ⟨[.bare "shop", .bare "items"]⟩ ∧
      ∀ c ∈ m.descriptors, c.IsSafe := by
  have hdot : ∀ f ∈ itemDeclaration.fields, '.' ∉ f.name.toList := by decide
  have hvalues : itemDeclaration.model.toOption.map
      (fun m => (m.table, m.descriptors.map fun c => (c.constant, c.key, c.column))) =
      some ("shop.items",
        [("TYPE", "type", "type"), ("UNIT_PRICE", "unitPrice", "Unit_Price")]) := by
    decide +kernel
  obtain ⟨m, hoption, hpair⟩ := Option.map_eq_some_iff.1 hvalues
  obtain ⟨htable, hdescriptors⟩ := Prod.mk.inj hpair
  have hmodel : itemDeclaration.model = .ok m := by
    cases hcases : itemDeclaration.model with
    | error e =>
      rw [hcases] at hoption
      exact nomatch hoption
    | ok m' =>
      rw [hcases] at hoption
      rw [Option.some.inj hoption]
  have hplain : ∀ x ∈ ["shop", "items"], IsPlainName x.toList := by
    simp only [List.forall_mem_cons, ← isPlainName_iff]
    decide
  have hread := (read_intercalate (List.cons_ne_nil _ _) hplain).1
  have hdotted : ".".intercalate ["shop", "items"] = m.table := by
    rw [htable]
    decide +kernel
  rw [hdotted] at hread
  obtain ⟨-, -, -, hsafe⟩ := isSafe_of_model_eq_ok hmodel hdot
  exact ⟨m, hmodel, hdot, hdescriptors, hread, hsafe⟩

end Derive

end SqlAssembly
