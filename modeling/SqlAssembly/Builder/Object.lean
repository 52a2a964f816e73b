import SqlAssembly.Builder.Basic
import SqlAssembly.Error

/-! # Conditions with an object for arguments

* `Builder.Call.ofObject`  the call for a condition whose parameters are the fields of an object -/

namespace SqlAssembly.Builder

/-- The condition whose parameters are the fields of the object that `source` is serialized to. -/
def Call.ofObject (text : String) (source : Except SerializationError Json) :
    Except SerializationError Call :=
  match source with
  | .ok (.object fields) => .ok (.condition text [.object fields])
  | .ok _ => .error (.argumentsNotAnObject text)
  | .error e => .error e

end SqlAssembly.Builder
