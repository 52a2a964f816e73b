import SqlAssembly.Builder.Clause
import SqlAssembly.Params
import SqlAssembly.Event

/-! # Building statements

A builder keeps the kind of statement, the fragments of each clause and the parameters bound so
far.  Its calls are data: `Builder.Call` says what is asked for, `Builder.apply` carries it out and
`Builder.run` carries out one call after the other.  What is reported along the way is
`Builder.Call.events`, and no later call depends on it.

* `Builder`                       the state
* `Builder.Call`                  the calls
* `Builder.apply`, `Builder.run`  their effect
* `Builder.bindArgs`              how the arguments of a condition are bound -/

namespace SqlAssembly

/-- A statement under construction. -/
structure Builder where
  mode : Mode
  /-- Whether an INSERT asks for the identity of the new row. -/
  identity : Bool
  clauses : Clauses
  params : Params
  config : Config

namespace Builder

/-- A SELECT without any clause. -/
def empty : Builder := ⟨.select, false, .empty, .empty, .default⟩

instance : Inhabited Builder := ⟨empty⟩

/-- A call of a builder. -/
inductive Call where
  | configure (config : Config)
  | table (name : String)
  | tableAs (name aliasName : String)
  | insert (table : String)
  | update (table : String)
  | delete (table : String)
  | value (field : String) (value : Value)
  | valueLiteral (field expr : String)
  | duplicate (field expr : String)
  | selectIdentity
  | set (field : String) (value : Value)
  | setLiteral (field expr : String)
  | condition (text : String) (args : List Value)
  | conditionIn (field : String) (values : List Value)
  | join (kind : JoinType) (table aliasName on : String)
  | select (fields : List String)
  | clearSelect
  | groupBy (fields : List String)
  | orderBy (field : String) (direction : Direction)
  | limit (offset rows : Int)
  | forUpdate
  | page (index size : IntWidth.int32.Carrier) (countRows : Bool) (totals : String)
  /-- A call that is carried out only if the gate is open. -/
  | gated (isOpen : Bool) (call : Call)

/-- A name with an alias behind it, if that is not empty. -/
def aliased (name aliasName : String) : String :=
  if aliasName = "" then name else name ++ " " ++ aliasName

/-! ## Parameter names -/

/-- The parameter that an assignment to `field` binds: the field itself if it is a word, else its
    first placeholder, else its last segment.  None if that is no word. -/
def parameterName? (field : String) : Option String :=
  let name :=
    if Text.isWordText field then field
    else
      match Placeholder.tokens field with
      | token :: _ => Placeholder.clean token
      | [] => Placeholder.cleanLast field
  if Text.isWordText name then some name else none

/-- The field as it stands in the names of the parameters of a list: dots become low lines and
    backticks are dropped. -/
def listStem (field : String) : String :=
  String.ofList ((field.toList.map fun c => if c = '.' then '_' else c).filter
    (· ≠ Char.ofNat 0x60))

/-- The placeholder of the element at place `i` of a list. -/
def listPlaceholder (field : String) (i : Nat) : String :=
  "@" ++ listStem field ++ "_IN_" ++ String.ofList (Numeral.decimal i)

/-- The condition that `field` is one of `count` elements. -/
def listCondition (field : String) (count : Nat) : String :=
  field ++ " IN (" ++ ",".intercalate ((List.range count).map (listPlaceholder field)) ++ ")"

/-- A condition that holds of no row. -/
def neverCondition : String := "1=0"

/-! ## Arguments of conditions -/

/-- Whether the arguments are bound to the placeholders of the condition one by one: there is a
    placeholder, there are as many arguments, and none of them is an object. -/
def isPositional (text : String) (args : List Value) : Bool :=
  let tokens := Placeholder.tokens text
  !tokens.isEmpty && tokens.length = args.length && !args.any Value.isObject

/-- Bind the fields of the objects among the arguments. -/
def bindObjects (params : Params) : List Value → Params
  | [] => params
  | .object fields :: args => bindObjects (params.merge fields) args
  | _ :: args => bindObjects params args

/-- Bind the arguments of a condition: one by one to its placeholders where they match, else the
    fields of the objects among them. -/
def bindArgs (params : Params) (text : String) (args : List Value) : Params :=
  if isPositional text args then params.addAll ((Placeholder.tokens text).zip args)
  else bindObjects params args

/-- A report for each argument that is bound to nothing. -/
def skippedArgs (text : String) (args : List Value) : List Event :=
  if isPositional text args then []
  else (args.filter fun a => !a.isObject).map fun a => .argumentSkipped text a.typeName

/-! ## Calls -/

/-- Add a fragment behind the others of its clause. -/
def addFragment (b : Builder) (clause : Clause) (f : Fragment) : Builder :=
  { b with clauses := b.clauses.add clause f }

/-- Add texts behind the other fragments of their clause. -/
def addTexts (b : Builder) (clause : Clause) (texts : List String) : Builder :=
  { b with clauses := b.clauses.addAll clause (texts.map .text) }

/-- Put a fragment in place of all fragments of its clause. -/
def replaceFragment (b : Builder) (clause : Clause) (f : Fragment) : Builder :=
  { b with clauses := b.clauses.replace clause f }

/-- Bind a parameter. -/
def bind (b : Builder) (name : String) (value : Value) : Builder :=
  { b with params := b.params.add name value }

/-- Add a table. -/
def addTable (b : Builder) (name : String) : Builder := b.addFragment .table (.text name)

/-- Add a condition and bind its arguments. -/
def addCondition (b : Builder) (text : String) (args : List Value) : Builder :=
  { b with
    clauses := b.clauses.add .condition (.text text)
    params := bindArgs b.params text args }

/-- The effect of a call. -/
def apply (b : Builder) : Call → Builder
  | .configure config => { b with config }
  | .table name => b.addTable name
  | .tableAs name aliasName => b.addTable (aliased name aliasName)
  | .insert table => { b with mode := .insert }.addTable table
  | .update table => { b with mode := .update }.addTable table
  | .delete table => { b with mode := .delete }.addTable table
  | .value field value =>
    let name := Placeholder.clean field
    (b.addFragment .insertValue (.column field ("@" ++ name))).bind name value
  | .valueLiteral field expr => b.addFragment .insertValue (.column field expr)
  | .duplicate field expr =>
    if b.mode = .insert ∧ field ≠ "" ∧ expr ≠ "" then
      b.addFragment .duplicateUpdate (.duplicate field expr)
    else b
  | .selectIdentity => if b.mode = .insert then { b with identity := true } else b
  | .set field value =>
    match parameterName? field with
    | some name =>
      (b.addFragment .updateValue (.text ("`" ++ name ++ "`=@" ++ name))).bind name value
    | none => b
  | .setLiteral field expr => b.addFragment .updateValue (.text (field ++ "=" ++ expr))
  | .condition text args => b.addCondition text args
  | .conditionIn field values =>
    if values.isEmpty then b.addCondition neverCondition []
    else b.addCondition (listCondition field values.length) values
  | .join kind table aliasName on =>
    b.addFragment .join (.text (kind.keyword ++ " " ++ aliased table aliasName ++ " ON " ++ on))
  | .select fields => b.addTexts .select fields
  | .clearSelect => { b with clauses := (b.clauses.remove .select).2 }
  | .groupBy fields => b.addTexts .groupBy fields
  | .orderBy field direction =>
    let field := if field = "" then "1" else field
    b.addFragment .orderBy (.text (field ++ " " ++ direction.sql))
  | .limit offset rows => b.replaceFragment .limit (.limit offset rows)
  | .forUpdate => b.replaceFragment .forUpdate .forUpdate
  | .page index size countRows totals =>
    b.replaceFragment .page (.page (.ofPage index size countRows totals))
  | .gated isOpen call => if isOpen then b.apply call else b

/-- The effect of calls one after the other. -/
def run (b : Builder) (calls : List Call) : Builder := calls.foldl apply b

/-- What a call reports, whatever the state of the builder. -/
def Call.events : Call → List Event
  | .set field _ => if (parameterName? field).isSome then [] else [.assignmentDropped field]
  | .condition text args => skippedArgs text args
  | .conditionIn field values =>
    if values.isEmpty then [] else skippedArgs (listCondition field values.length) values
  | .gated isOpen call => if isOpen then call.events else []
  | _ => []

/-- Whether a page asks for a count query. -/
def countsRows (b : Builder) : Bool := b.clauses.page?.any (·.countRows)

end Builder

end SqlAssembly
