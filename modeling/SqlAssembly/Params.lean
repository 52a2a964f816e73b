import SqlAssembly.Placeholder
import SqlAssembly.Value.Basic

/-! # Named parameters

The values that a statement's placeholders stand for, in the order they were bound in.

* `Params.add`     binds a name, in place of its first binding if there is one
* `Params.merge`   binds the fields of an object behind all bindings
* `Params.get?`    the last value bound to a name -/

namespace SqlAssembly

/-- Named values in binding order.  A name may be bound more than once. -/
structure Params where
  entries : List (String × Value)

namespace Params

/-- No parameters. -/
def empty : Params := ⟨[]⟩

instance : Inhabited Params := ⟨empty⟩

/-- Give the first entry of that name another value, or put one behind all entries. -/
def assign (name : String) (value : Value) : List (String × Value) → List (String × Value)
  | [] => [(name, value)]
  | (n, v) :: rest => if n = name then (n, value) :: rest else (n, v) :: assign name value rest

/-- Bind a name, in place of its first binding if there is one. -/
def add (p : Params) (name : String) (value : Value) : Params :=
  ⟨assign (Placeholder.clean name) value p.entries⟩

/-- Bind each field of an object, behind all bindings. -/
def merge (p : Params) (fields : Json.Fields) : Params :=
  ⟨p.entries ++ fields.map fun f => (Placeholder.clean f.1, Value.ofJson f.2)⟩

/-- Bind names one after the other. -/
def addAll (p : Params) (bindings : List (String × Value)) : Params :=
  bindings.foldl (fun p b => p.add b.1 b.2) p

/-- The last value bound to a name. -/
def get? (p : Params) (name : String) : Option Value :=
  (p.entries.reverse.find? fun e => e.1 = Placeholder.clean name).map (·.2)

/-- Whether the name is bound. -/
def contains (p : Params) (name : String) : Bool := (p.get? name).isSome

/-- The number of bindings. -/
def size (p : Params) : Nat := p.entries.length

/-- Whether there are no bindings. -/
def isEmpty (p : Params) : Bool := p.entries.isEmpty

/-- The names in binding order. -/
def names (p : Params) : List String := p.entries.map (·.1)

/-- The JSON text of the bindings. -/
def serialized (p : Params) : String :=
  let pair (e : String × Value) : String :=
    Json.bracketed [Json.quote e.1, e.2.serialized]
  Json.braced [Json.fieldText "items" (Json.bracketed (p.entries.map pair))]

end Params

end SqlAssembly
