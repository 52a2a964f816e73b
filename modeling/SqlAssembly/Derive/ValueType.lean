import SqlAssembly.Derive.Tree

/-! # Types of values

The descriptor of a field that may be absent has the type of the values that are there.

* `Tree.optionArgument?`  the only argument of an `Option`, if it is a type
* `Tree.valueType`        the type without the `Option` around it -/

namespace SqlAssembly.Derive.Tree

/-- What stands behind the name of a segment of a path. -/
inductive Arguments where
  | absent
  | angles (inner : List Tree)
  | round

/-- The arguments behind the name of a segment of a path, and what follows them. -/
def cutArguments : List Tree → Arguments × List Tree
  | group .angle inner :: rest => (.angles inner, rest)
  | leaf (.mark ':') :: leaf (.mark ':') :: group .angle inner :: rest => (.angles inner, rest)
  | group .round _ :: rest => (.round, rest)
  | rest => (.absent, rest)

/-- The last segment of a path of at most `fuel` segments with its arguments, given what follows
    the colons in front of a segment; none if the trees are not a path and nothing else. -/
def lastSegment? : Nat → List Tree → Option (String × Arguments)
  | fuel + 1, leaf (.word name) :: rest =>
    match cutArguments rest with
    | (arguments, []) => some (name, arguments)
    | (_, leaf (.mark ':') :: leaf (.mark ':') :: more) => lastSegment? fuel more
    | _ => none
  | _, _ => none

/-- The last segment of a path that may start with colons.  Behind `dyn` and `impl` stand bounds,
    also where those start with colons. -/
def pathEnd? (ts : List Tree) : Option (String × Arguments) :=
  match ts with
  | leaf (.mark ':') :: leaf (.mark ':') :: rest => lastSegment? rest.length rest
  | leaf (.word "dyn") :: _ | leaf (.word "impl") :: _ => none
  | _ => lastSegment? ts.length ts

/-- Whether an argument starts with a name that it binds to something: behind the name and perhaps
    arguments stands an equals sign or a single colon. -/
def bindsName : List Tree → Bool
  | leaf (.word _) :: rest =>
    match (cutArguments rest).2 with
    | leaf (.mark '=') :: _ => true
    | leaf (.mark ':') :: leaf (.mark ':') :: _ => false
    | leaf (.mark ':') :: _ => true
    | _ => false
  | _ => false

/-- Whether trees start with a literal: a number may have a minus sign. -/
def startsWithLiteral : List Tree → Bool
  | leaf (.literal _) :: _ | leaf (.text ..) :: _ => true
  | leaf (.mark '-') :: leaf (.literal _) :: _ => true
  | leaf (.word name) :: _ => name = "true" || name = "false"
  | _ => false

/-- Whether an argument is a type: no lifetime, no constant and no bound name. -/
def isType (argument : List Tree) : Bool :=
  !isLifetime argument && !startsWithLiteral argument && !bindsName argument &&
    match argument with
    | [] | group .curly _ :: _ => false
    | _ => true

/-- The only argument of an `Option`, if it is a type. -/
def optionArgument? (ts : List Tree) : Option (List Tree) :=
  match pathEnd? ts with
  | some (name, .angles inner) =>
    match items inner with
    | [argument] => if name = "Option" ∧ isType argument then some argument else none
    | _ => none
  | _ => none

/-- The type without the `Option` around it. -/
def valueType (ts : List Tree) : List Tree := (optionArgument? ts).getD ts

end SqlAssembly.Derive.Tree
