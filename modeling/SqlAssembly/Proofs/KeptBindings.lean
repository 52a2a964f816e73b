import Mathlib.Data.List.Nodup
import SqlAssembly.Builder.Object
import SqlAssembly.Proofs.BoundNames
import SqlAssembly.Proofs.CallWrites

/-! # Bindings are kept

Whatever is called, the bindings stay where they are: new ones come behind them, and a value
changes only where its name is bound again by a value, an assignment or a positional argument.
Objects put their fields behind all bindings and change none.

Everything that binds is one of two writes, so this is shown for the writes and then read off the
writes of a call.  A query changes its parameters only by the call that it emits, if it emits one.

* `Params.Keeps`                what all calls keep of the bindings
* `Params.keeps_writeAll`       writes keep them but for the names they add
* `Builder.Call.addedNames`     the names that a call binds one by one
* `Builder.Call.bindsObject`    whether an object is among the arguments
* `Builder.keeps_apply`, `Builder.keeps_run`   what a call and a run keep
* `Query.builder_run`           a run of a query as one of its builder
* `Query.bindings_kept`         calls and runs of builders and queries -/

namespace SqlAssembly

open Placeholder

namespace Params

variable {p p' p'' : Params} {names names' : List String} {ws : List Params.Write}

/-- Whether the bindings of `p` are those of `p'` at the same places, up to the values of `names`
    and what comes behind them. -/
structure Keeps (p p' : Params) (names : List String) : Prop where
  names_prefix : p.names <+: p'.names
  value_eq : ∀ (i : Nat) (name : String) (value : Value), p.entries[i]? = some (name, value) →
    name ∉ names → p'.entries[i]? = some (name, value)

theorem Keeps.refl (p : Params) (names : List String) : p.Keeps p names :=
  ⟨List.prefix_rfl, fun _ _ _ h _ => h⟩

theorem Keeps.trans (h : p.Keeps p' names) (h' : p'.Keeps p'' names') :
    p.Keeps p'' (names ++ names') where
  names_prefix := h.names_prefix.trans h'.names_prefix
  value_eq i name value hi hname := by
    rw [List.mem_append, not_or] at hname
    exact h'.value_eq i name value (h.value_eq i name value hi hname.1) hname.2

/-- Bindings behind all others change none. -/
private theorem keeps_of_prefix (h : p.entries <+: p'.entries) (names : List String) :
    p.Keeps p' names where
  names_prefix := h.map Prod.fst
  value_eq i name value hi _ := by
    obtain ⟨rest, hrest⟩ := h
    rw [← hrest, List.getElem?_append_left (List.getElem?_eq_some_iff.1 hi).1, hi]

/-- Another value for a name leaves the entries of other names alone. -/
private theorem getElem?_assign_of_ne {entries : List (String × Value)} {i : Nat}
    {key name : String} {value : Value} (h : entries[i]? = some (name, value)) (hname : name ≠ key)
    (v : Value) :
    (assign key v entries)[i]? = some (name, value) := by
  induction entries generalizing i with
  | nil => simp at h
  | cons e rest ih =>
    obtain ⟨n, w⟩ := e
    rw [assign]
    -- The entry is the first one or stands behind it, where the value may still be put.
    cases i with
    | zero =>
      rw [List.getElem?_cons_zero] at h
      obtain ⟨rfl, rfl⟩ := Prod.mk.inj (Option.some.inj h)
      rw [if_neg hname, List.getElem?_cons_zero]
    | succ i =>
      rw [List.getElem?_cons_succ] at h
      split
      · exact h
      · exact ih h

theorem keeps_add (p : Params) (name : String) (value : Value) :
    p.Keeps (p.add name value) [clean name] where
  names_prefix := by
    rw [names_add]
    split
    · exact List.prefix_rfl
    · exact List.prefix_append _ _
  value_eq i n v hi hn := getElem?_assign_of_ne hi (by simpa using hn) value

private theorem entries_prefix_merge (p : Params) (fields : Json.Fields) :
    p.entries <+: (p.merge fields).entries :=
  List.prefix_append _ _

/-! ## Writes -/

namespace Write

/-- The names that a write binds in place of an earlier binding, as they are kept. -/
def addedNames : Write → List String
  | .add name _ => [clean name]
  | .merge _ => []

/-- Whether a write binds the fields of an object. -/
def isMerge : Write → Bool
  | .add .. => false
  | .merge _ => true

end Write

theorem keeps_write (p : Params) (w : Write) : p.Keeps (p.write w) w.addedNames := by
  cases w with
  | add name value => exact p.keeps_add name value
  | merge fields => exact keeps_of_prefix (p.entries_prefix_merge fields) _

/-- Writes keep the bindings but for the names they add. -/
theorem keeps_writeAll (p : Params) (ws : List Write) :
    p.Keeps (p.writeAll ws) (ws.flatMap Write.addedNames) := by
  -- The first write is kept by the others, so that the names add up.
  induction ws generalizing p with
  | nil => exact Keeps.refl p _
  | cons w ws ih => exact (p.keeps_write w).trans (ih (p.write w))

/-- The fields of objects come behind all bindings. -/
private theorem entries_prefix_writeAll (p : Params) (h : ∀ w ∈ ws, w.isMerge = true) :
    p.entries <+: (p.writeAll ws).entries := by
  induction ws generalizing p with
  | nil => exact List.prefix_rfl
  | cons w ws ih =>
    obtain ⟨hw, hws⟩ := List.forall_mem_cons.1 h
    cases w with
    | add => exact Bool.noConfusion hw
    | merge fields => exact (p.entries_prefix_merge fields).trans (ih (p.merge fields) hws)

private theorem nodup_names_add (h : p.names.Nodup) (name : String) (value : Value) :
    (p.add name value).names.Nodup := by
  rw [names_add]
  split
  · exact h
  · -- a new name, which goes to the end
    rename_i hnew
    rw [List.nodup_append']
    exact ⟨h, List.nodup_singleton _, List.disjoint_singleton.2 hnew⟩

/-- Without objects the names stay distinct. -/
private theorem nodup_names_writeAll (h : p.names.Nodup) (hadds : ∀ w ∈ ws, w.isMerge = false) :
    (p.writeAll ws).names.Nodup := by
  induction ws generalizing p with
  | nil => exact h
  | cons w ws ih =>
    obtain ⟨hw, hws⟩ := List.forall_mem_cons.1 hadds
    cases w with
    | add name value => exact ih (nodup_names_add h name value) hws
    | merge => exact Bool.noConfusion hw

end Params

namespace Builder

variable {b : Builder} {calls : List Builder.Call}

/-- The names that the arguments of a condition are bound to one by one, as they are kept. -/
def positionalNames (text : String) (args : List Value) : List String :=
  if isPositional text args then (tokens text).map clean else []

namespace Call

/-- The names that a call binds by a value, an assignment or positional arguments, as they are
    kept. -/
def addedNames : Call → List String
  | .value field _ => [clean (clean field)]
  | .set field _ => (parameterName? field).toList.map clean
  | .condition text args => positionalNames text args
  | .conditionIn field values =>
    if values.isEmpty then [] else positionalNames (listCondition field values.length) values
  | .gated isOpen call => if isOpen then call.addedNames else []
  | _ => []

/-- The arguments of the condition that a call adds. -/
def arguments : Call → List Value
  | .condition _ args => args
  | .conditionIn _ values => values
  | .gated isOpen call => if isOpen then call.arguments else []
  | _ => []

/-- Whether an object is among the arguments. -/
def bindsObject (call : Call) : Bool := call.arguments.any Value.isObject

end Call

private theorem addedNames_argumentWrites (text : String) (args : List Value) :
    (argumentWrites text args).flatMap Params.Write.addedNames = positionalNames text args := by
  rw [argumentWrites, positionalNames]
  split
  · rename_i hpositional
    have hlength := (isPositional_iff.1 hpositional).2.1
    rw [List.flatMap_map]
    calc ((tokens text).zip args).flatMap (fun b => [clean b.1])
      _ = ((tokens text).zip args).map (fun b => clean b.1) := List.map_eq_flatMap.symm
      _ = (tokens text).map clean := map_clean_zip (Nat.le_of_eq hlength.symm)
  · rw [List.flatMap_map, List.flatMap_eq_nil_iff]
    exact fun _ _ => rfl

/-- Arguments are merged if an object is among them, and else added. -/
private theorem isMerge_of_mem_argumentWrites {text : String} {args : List Value} {w : Params.Write}
    (h : w ∈ argumentWrites text args) : w.isMerge = args.any Value.isObject := by
  rw [argumentWrites] at h
  split at h
  · -- bound by position, which takes arguments none of which is an object
    rename_i hpositional
    obtain ⟨b, -, rfl⟩ := List.mem_map.1 h
    have hobjects := (isPositional_iff.1 hpositional).2.2
    exact (List.any_eq_false.2 fun a ha => by rw [hobjects a ha]; exact Bool.false_ne_true).symm
  · -- What is merged is an object among the arguments, so one of them is an object.
    obtain ⟨fields, hfields, rfl⟩ := List.mem_map.1 h
    obtain ⟨a, ha, hobject⟩ := List.mem_filterMap.1 hfields
    have hisObject : a.isObject = true := by
      cases a with
      | object => rfl
      | _ => exact absurd hobject.symm (Option.some_ne_none _)
    exact (List.any_eq_true.2 ⟨a, ha, hisObject⟩).symm

private theorem addedNames_writes (call : Call) :
    call.writes.flatMap Params.Write.addedNames = call.addedNames := by
  -- Each call writes to the names that it is said to add.
  induction call with
  | value field v => rfl
  | set field v =>
    rw [Call.writes, Call.addedNames]
    cases parameterName? field <;> rfl
  | condition text args => exact addedNames_argumentWrites text args
  | conditionIn field values =>
    rw [Call.writes, Call.addedNames]
    split
    · rfl
    · exact addedNames_argumentWrites _ values
  | gated isOpen call ih =>
    cases isOpen with
    | true => exact ih
    | false => rfl
  | _ => rfl

private theorem isMerge_of_mem_writes {call : Call} {w : Params.Write} (h : w ∈ call.writes) :
    w.isMerge = call.bindsObject := by
  induction call with
  | value field v =>
    obtain rfl := List.mem_singleton.1 h
    rfl
  | set field v =>
    obtain ⟨name, -, rfl⟩ := List.mem_map.1 h
    rfl
  | condition text args => exact isMerge_of_mem_argumentWrites h
  | conditionIn field values =>
    rw [Call.writes] at h
    split at h
    · exact absurd h List.not_mem_nil
    · exact isMerge_of_mem_argumentWrites h
  | gated isOpen call ih =>
    cases isOpen with
    | true => exact ih h
    | false => exact absurd h List.not_mem_nil
  | _ => exact absurd h List.not_mem_nil

/-- The arguments that an object was serialized to are that object. -/
private theorem bindsObject_of_ofObject {text : String} {source : Except SerializationError Json}
    {call : Call} (h : Call.ofObject text source = .ok call) : call.bindsObject = true := by
  unfold Call.ofObject at h
  split at h
  · obtain rfl := Except.ok.inj h
    rfl
  · exact nomatch h
  · exact nomatch h

/-- A call keeps the bindings but for the names it binds one by one. -/
theorem keeps_apply (b : Builder) (call : Call) :
    b.params.Keeps (b.apply call).params call.addedNames := by
  rw [params_apply, ← addedNames_writes]
  exact b.params.keeps_writeAll call.writes

/-- The fields of objects come behind all bindings. -/
private theorem entries_prefix_apply (b : Builder) {call : Call} (h : call.bindsObject = true) :
    b.params.entries <+: (b.apply call).params.entries := by
  rw [params_apply]
  exact b.params.entries_prefix_writeAll fun w hw => (isMerge_of_mem_writes hw).trans h

/-- A run keeps the bindings but for the names that its calls bind one by one. -/
theorem keeps_run (b : Builder) (calls : List Call) :
    b.params.Keeps (b.run calls).params (calls.flatMap Call.addedNames) := by
  induction calls generalizing b with
  | nil => exact Params.Keeps.refl b.params _
  | cons call calls ih => exact (b.keeps_apply call).trans (ih (b.apply call))

private theorem nodup_names_apply (h : b.params.names.Nodup) {call : Call}
    (hobject : call.bindsObject = false) : (b.apply call).params.names.Nodup := by
  rw [params_apply]
  exact Params.nodup_names_writeAll h fun w hw => (isMerge_of_mem_writes hw).trans hobject

/-- A run without objects among the arguments keeps the names distinct. -/
theorem nodup_names_run (h : b.params.names.Nodup)
    (hobject : ∀ call ∈ calls, call.bindsObject = false) : (b.run calls).params.names.Nodup := by
  induction calls generalizing b with
  | nil => exact h
  | cons call calls ih =>
    obtain ⟨hcall, hcalls⟩ := List.forall_mem_cons.1 hobject
    exact ih (nodup_names_apply h hcall) hcalls

end Builder

namespace Query

/-- The calls of the builder that an outcome brings: the one it emits, if it emits one. -/
def Outcome.calls : Outcome → List Builder.Call
  | .emit call => [call]
  | _ => []

/-- The calls of the builder that a run brings. -/
def emitted (q : Query) : List Call → List Builder.Call
  | [] => []
  | call :: calls => (q.outcome call).calls ++ (q.apply call).emitted calls

private theorem builder_apply (q : Query) (call : Call) :
    (q.apply call).builder = q.builder.run (q.outcome call).calls := by
  rw [apply]
  cases q.outcome call with
  | emit | skip | dropOrder | refuse => rfl

theorem builder_run (q : Query) (calls : List Call) :
    (q.run calls).builder = q.builder.run (q.emitted calls) := by
  induction calls generalizing q with
  | nil => rfl
  | cons call calls ih =>
    rw [run_cons, ih, builder_apply, emitted]
    -- What the first call brings is in front of what the others bring.
    exact List.foldl_append.symm

/-- Objects among the arguments of what is emitted put their fields behind all bindings. -/
private theorem entries_prefix_apply {q : Query} {call : Call}
    (h : ∃ emitted ∈ (q.outcome call).calls, emitted.bindsObject = true) :
    q.builder.params.entries <+: (q.apply call).builder.params.entries := by
  obtain ⟨emitted, hmem, hobject⟩ := h
  rw [builder_apply]
  -- A call that emits nothing has no arguments to bind.
  cases houtcome : q.outcome call with
  | emit call' =>
    rw [houtcome] at hmem
    obtain rfl := List.mem_singleton.1 hmem
    exact q.builder.entries_prefix_apply hobject
  | _ => exact List.prefix_rfl

/-- No call loses or moves a binding, and it changes the value of none but those of the names that
    it binds by a value, an assignment or positional arguments; with an object among the arguments
    of its condition it changes none at all.  Runs add this up, and without such objects they keep
    the names distinct.  For queries the arguments are those of what is emitted, be they from the
    call or from the request. -/
theorem bindings_kept :
    (∀ (b : Builder) (call : Builder.Call),
      b.params.Keeps (b.apply call).params call.addedNames ∧
      (call.bindsObject = true → b.params.entries <+: (b.apply call).params.entries)) ∧
    (∀ (text : String) (source : Except SerializationError Json) (call : Builder.Call),
      Builder.Call.ofObject text source = .ok call → call.bindsObject = true) ∧
    (∀ (b : Builder) (calls : List Builder.Call),
      b.params.Keeps (b.run calls).params (calls.flatMap Builder.Call.addedNames) ∧
      (b.params.names.Nodup → (∀ call ∈ calls, call.bindsObject = false) →
        (b.run calls).params.names.Nodup)) ∧
    (∀ (q : Query) (call : Call),
      q.builder.params.Keeps (q.apply call).builder.params
        ((q.outcome call).calls.flatMap Builder.Call.addedNames) ∧
      ((∃ emitted ∈ (q.outcome call).calls, emitted.bindsObject = true) →
        q.builder.params.entries <+: (q.apply call).builder.params.entries)) ∧
    (∀ (q : Query) (calls : List Call),
      q.builder.params.Keeps (q.run calls).builder.params
        ((q.emitted calls).flatMap Builder.Call.addedNames) ∧
      (q.builder.params.names.Nodup →
        (∀ call ∈ q.emitted calls, call.bindsObject = false) →
        (q.run calls).builder.params.names.Nodup)) := by
  refine ⟨fun b call => ⟨b.keeps_apply call, b.entries_prefix_apply⟩,
    fun _ _ _ => Builder.bindsObject_of_ofObject,
    fun b calls => ⟨b.keeps_run calls, Builder.nodup_names_run⟩,
    fun q call => ⟨?_, entries_prefix_apply⟩, fun q calls => ?_⟩
  · rw [builder_apply]
    exact q.builder.keeps_run _
  · rw [builder_run]
    exact ⟨q.builder.keeps_run _, Builder.nodup_names_run⟩

/-- A name that two objects bind. -/
def twiceBound : Builder :=
  Builder.empty.run
    [.condition "a = @id" [.object [("id", .bool true)]],
      .condition "b = @id" [.object [("@`id`", .bool false)]]]

/-- Calls of which some bind one name under several spellings, one is behind a closed gate and one
    is refused. -/
def respelled : List Call :=
  [.condition "a = @id AND b = @x" [.null, .bool true], .condition "c = @@id" [.bool false],
    .gated false (.condition "d" [.object [("id", .null)]]),
    .value (.new ⟨"items"⟩ "" "id" .text) .null, .setValue (.new ⟨"items"⟩ "x" "t.x" .text) .null,
    .clearSelect, .insert]

/-- The query behind these calls. -/
def respelledQuery : Query := (ofModel ⟨"items"⟩).run respelled

/-- Another value for a name bound twice, a third object, calls that respell a name, and an object
    behind them. -/
theorem bindings_kept_respelled :
    twiceBound.params.names = ["id", "id"] ∧
      twiceBound.params.Keeps (twiceBound.apply (.value "`id`" .null)).params ["id"] ∧
      (∀ call, Builder.Call.ofObject "c = @id" (.ok (.object [("id", .null)])) = .ok call →
        twiceBound.params.entries <+: (twiceBound.apply call).params.entries) ∧
      respelledQuery.builder.params.names = ["id", "x"] ∧
      respelledQuery.builder.params.names.Nodup ∧
      respelledQuery.builder.params.entries <+:
        (respelledQuery.apply (.condition "@x" [.object [("x", .null)]])).builder.params.entries := by
  -- None of the calls that are carried out has an object among its arguments.
  have hnames : respelledQuery.builder.params.names.Nodup :=
    (bindings_kept.2.2.2.2 (ofModel ⟨"items"⟩) respelled).2 (by decide) (by decide)
  refine ⟨by decide, (bindings_kept.1 twiceBound (.value "`id`" .null)).1, fun call hcall => ?_,
    by decide, hnames, ?_⟩
  · have hobject := bindings_kept.2.1 _ _ call hcall
    exact (bindings_kept.1 twiceBound call).2 hobject
  · exact (bindings_kept.2.2.2.1 respelledQuery (.condition "@x" [.object [("x", .null)]])).2
      ⟨_, List.mem_singleton_self _, rfl⟩

end Query

end SqlAssembly
