import SqlAssembly.Proofs.CallEffects
import SqlAssembly.Proofs.LastBinding

/-! # What calls bind

Values and assignments add one parameter each.  A condition adds one for each of its placeholders,
or else binds the fields of the objects among its arguments.  No other call binds anything, so the
parameters behind a run are what these writes, one after the other, make of those before it.

* `Params.Write.names`         the names that a write binds
* `Builder.argumentWrites`     the writes of the arguments of a condition
* `Builder.Call.writes`        the writes of a call
* `Builder.Call.boundNames`    the names that a call binds
* `Builder.params_run`         the parameters behind a run of calls -/

namespace SqlAssembly

open Placeholder

namespace Params

variable {name : String}

/-- The names that a write binds, as they are kept. -/
def Write.names : Write → List String
  | .add name _ => [clean name]
  | .merge fields => fields.map fun f => clean f.1

/-- A write binds no name but its own. -/
private theorem Write.bindingsOf_eq_nil {w : Write} (h : clean name ∉ w.names) :
    w.bindingsOf name = [] := by
  cases w with
  | add key value => exact if_neg fun hkey => h (List.mem_singleton.2 hkey.symm)
  | merge fields =>
    rw [bindingsOf, List.map_eq_nil_iff, List.filter_eq_nil_iff]
    intro f hf hkey
    exact h (List.mem_map.2 ⟨f, hf, of_decide_eq_true hkey⟩)

/-- A name that no write binds has no history. -/
theorem history_eq_nil {ws : List Write} (h : clean name ∉ ws.flatMap Write.names) :
    history name ws = [] := by
  rw [history, List.flatMap_eq_nil_iff]
  intro w hw
  exact Write.bindingsOf_eq_nil fun hname => h (List.mem_flatMap.2 ⟨w, hw, hname⟩)

/-- Writes that bind a name alike make no difference for it. -/
theorem get?_writeAll_congr (p : Params) {ws ws' : List Write}
    (h : history name ws = history name ws') :
    (p.writeAll ws).get? name = (p.writeAll ws').get? name := by
  rw [get?_eq_getLast?, get?_eq_getLast?, valuesOf_writeAll, valuesOf_writeAll, h]

private theorem writeAll_append (p : Params) (ws ws' : List Write) :
    p.writeAll (ws ++ ws') = (p.writeAll ws).writeAll ws' :=
  List.foldl_append

/-- Names that are bound one after the other are added one by one. -/
theorem addAll_eq_writeAll (p : Params) (bindings : List (String × Value)) :
    p.addAll bindings = p.writeAll (bindings.map fun b => .add b.1 b.2) := by
  rw [writeAll, List.foldl_map]
  rfl

end Params

namespace Builder

/-- The writes of the arguments of a condition. -/
def argumentWrites (text : String) (args : List Value) : List Params.Write :=
  if isPositional text args then ((tokens text).zip args).map fun b => .add b.1 b.2
  else (args.filterMap Value.fields?).map .merge

/-- The objects among arguments are merged one after the other. -/
theorem bindObjects_eq_writeAll (p : Params) (args : List Value) :
    bindObjects p args = p.writeAll ((args.filterMap Value.fields?).map .merge) := by
  -- Each object is merged into what those in front of it have made.
  induction args generalizing p with
  | nil => rfl
  | cons a args ih =>
    cases a with
    | object fields => exact ih (p.merge fields)
    | _ => exact ih p

theorem bindArgs_eq_writeAll (p : Params) (text : String) (args : List Value) :
    bindArgs p text args = p.writeAll (argumentWrites text args) := by
  rw [bindArgs, argumentWrites]
  split
  · exact p.addAll_eq_writeAll _
  · exact bindObjects_eq_writeAll p args

/-- The writes of a call. -/
def Call.writes : Call → List Params.Write
  | .value field v => [.add (clean field) v]
  | .set field v => (parameterName? field).toList.map fun name => .add name v
  | .condition text args => argumentWrites text args
  | .conditionIn field values =>
    if values.isEmpty then [] else argumentWrites (listCondition field values.length) values
  | .gated isOpen call => if isOpen then call.writes else []
  | _ => []

/-- The names that a call binds, as they are kept. -/
def Call.boundNames (call : Call) : List String := call.writes.flatMap Params.Write.names

/-- A call binds what it writes. -/
theorem params_apply (b : Builder) (call : Call) :
    (b.apply call).params = b.params.writeAll call.writes := by
  -- Most calls bind nothing, which holds by definition.
  induction call with
  | duplicate field expr =>
    rw [apply_duplicate]
    split <;> rfl
  | selectIdentity =>
    rw [apply_selectIdentity]
    split <;> rfl
  | set field value =>
    rw [apply_set, Call.writes]
    -- Where no name is derived, nothing is bound either.
    cases parameterName? field <;> rfl
  | condition text args => exact bindArgs_eq_writeAll b.params text args
  | conditionIn field values =>
    rw [apply_conditionIn, Call.writes]
    split
    · -- The condition that holds of no row has no arguments.
      exact bindArgs_eq_writeAll b.params neverCondition []
    · exact bindArgs_eq_writeAll b.params _ values
  | gated isOpen call ih =>
    cases isOpen with
    | true => exact ih
    | false => rfl
  | _ => rfl

/-- A run binds what its calls write. -/
theorem params_run (b : Builder) (calls : List Call) :
    (b.run calls).params = b.params.writeAll (calls.flatMap Call.writes) := by
  -- The others write to what the first call has bound.
  induction calls generalizing b with
  | nil => rfl
  | cons call calls ih =>
    rw [run_cons, ih, params_apply, List.flatMap_cons, Params.writeAll_append]

end Builder

end SqlAssembly
