import SqlAssembly.Derive.Tree

/-! # Parameters of declarations

* `Parameter`              a lifetime, a type or a constant
* `Generics`               the parameters and the conditions on them
* `Generics.ofString`      reads them
* `Generics.declared`      the parameters as a block declares them, without defaults
* `Generics.applied`       the parameters as arguments of the declared type
* `Generics.conditions`    the conditions -/

namespace SqlAssembly.Derive

/-- What a parameter stands for. -/
inductive ParameterKind where
  | lifetime
  | type
  | constant
deriving DecidableEq, Repr

/-- A parameter. -/
structure Parameter where
  attributes : List Tree
  kind : ParameterKind
  name : Token
  /-- The bounds of a lifetime or a type, or the type of a constant. -/
  bounds : List Tree

/-- The parameters of a declaration, with the lifetimes in front. -/
structure Generics where
  parameters : List Parameter
  /-- Whether a comma follows the last parameter. -/
  endsInComma : Bool
  /-- The keyword `where` and what follows it. -/
  conditionTrees : List Tree

namespace Parameter

/-- What follows the colon behind the name, without a default. -/
def boundsOf : List Tree → List Tree
  | .leaf (.mark ':') :: rest => rest.takeWhile fun t => !t.isMark '='
  | _ => []

/-- The parameter that trees spell. -/
def ofTrees? (ts : List Tree) : Option Parameter :=
  let attributes := Tree.takeAttributes ts
  match Tree.dropAttributes ts with
  | .leaf (.word "const") :: .leaf name :: rest =>
    some ⟨attributes, .constant, name, boundsOf rest⟩
  | .leaf (.lifetime s) :: rest => some ⟨attributes, .lifetime, .lifetime s, boundsOf rest⟩
  | .leaf (.word s) :: rest => some ⟨attributes, .type, .word s, boundsOf rest⟩
  | _ => none

/-- The parameter as an argument. -/
def applied (p : Parameter) : List Tree := [.leaf p.name]

/-- The parameter as it is declared, without a default. -/
def declared (p : Parameter) : List Tree :=
  let keyword := if p.kind = .constant then [Tree.leaf (.word "const")] else []
  let bounds := if p.bounds.isEmpty then [] else .leaf (.mark ':') :: p.bounds
  p.attributes ++ keyword ++ p.applied ++ bounds

end Parameter

namespace Generics

/-- The parameters in angles and the conditions that trees spell. -/
def ofTrees : List Tree → Generics
  | .group .angle inner :: conditions =>
    ⟨(Tree.items inner).filterMap Parameter.ofTrees?, Tree.endsInComma inner, conditions⟩
  | conditions => ⟨[], false, conditions⟩

/-- The parameters and the conditions that a text spells. -/
def ofString (s : String) : Generics := ofTrees (Tree.ofString .type s)

/-- The parameters in angles, each as `write` writes it; nothing without a parameter. -/
def bracketed (g : Generics) (write : Parameter → List Tree) : String :=
  if g.parameters.isEmpty then ""
  else Tree.text [.group .angle (Tree.joinItems (g.parameters.map write) g.endsInComma)]

/-- The parameters as a block declares them. -/
def declared (g : Generics) : String := g.bracketed Parameter.declared

/-- The parameters as arguments. -/
def applied (g : Generics) : String := g.bracketed Parameter.applied

/-- The conditions, nothing if there is only the keyword. -/
def conditions (g : Generics) : String :=
  if g.conditionTrees.length < 2 then "" else Tree.text g.conditionTrees

end Generics

end SqlAssembly.Derive
