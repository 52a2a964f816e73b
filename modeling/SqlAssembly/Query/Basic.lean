import SqlAssembly.Bag
import SqlAssembly.Builder.Render
import SqlAssembly.Query.Field

/-! # Queries driven by a request

A query puts typed calls on top of a builder.  A conditional call looks into the bag of the request
and asks the builder for something only if the bag has a usable value.  Its calls are data, and
each one comes down to an outcome: a call of the builder, nothing, or a violation, of which the
first one is kept and spoils the rendering.

* `Query`                       the state
* `Query.Call`                  the calls
* `Query.outcome`               what a call comes down to
* `Query.apply`, `Query.run`    the effect of calls
* `Query.render`, `Query.build` the text, unless there was a violation -/

namespace SqlAssembly

/-- A statement under construction for a model and a request. -/
structure Query where
  model : Model
  builder : Builder
  bag : Option Bag
  violation : Option Violation

namespace Query

/-- A query without a request. -/
def ofModel (model : Model) : Query := ⟨model, .empty, none, none⟩

/-- A query with a request. -/
def ofBag (model : Model) (bag : Bag) : Query := { ofModel model with bag := some bag }

/-- A call of a query. -/
inductive Call where
  | configure (config : Config)
  | table (aliasName : String)
  | tableOf (model : Model) (aliasName : String)
  | insert
  | update
  | delete
  /-- A comparison with the value in the request, if `accept` takes it.  The operator is the one of
      the call or else of the request. -/
  | when (field : Field) (accept : Option (field.type.Carrier → Bool))
      (operator : Option Comparison)
  | whenRaw (type : FieldType) (expr param : String)
  | between (field : Field) (accept : Option (List field.type.Carrier → Bool))
  | betweenValues (field : Field) (low high : Value)
  | set (field : Field) (accept : Option (field.type.Carrier → Bool))
  | setValue (field : Field) (value : Value)
  | setLiteral (field : Field) (expr : String)
  | value (field : Field) (value : Value)
  | valueLiteral (field : Field) (expr : String)
  | duplicate (field : Field) (expr : String)
  | selectIdentity
  | conditionOn (field : Field) (text : String) (args : List Value)
  | condition (text : String) (args : List Value)
  | conditionIn (field : Field) (values : List Value)
  | joinOn (kind : JoinType) (field equals : Field)
  | joinIf (kind : JoinType) (field : Field) (text : String)
  | orderByRequest
  | orderBy (field : Field) (direction : Direction)
  | groupBy (field : Field)
  | selectFields (fields : List Field)
  | selectAs (field : Field) (aliasName : String)
  | select (columns : List String)
  | clearSelect
  | limit (offset rows : Int)
  | forUpdate
  | pageOfRequest (countRows : Bool) (totals : String)
  | page (index size : IntWidth.int32.Carrier) (countRows : Bool) (totals : String)
  /-- A call that is carried out only if the gate is open. -/
  | gated (isOpen : Bool) (call : Call)

/-- What a call comes down to. -/
inductive Outcome where
  /-- A call of the builder. -/
  | emit (call : Builder.Call)
  /-- Nothing: the request has no usable value. -/
  | skip
  /-- Nothing: the requested order is no identifier. -/
  | dropOrder (requested : String) (error : PreconditionError)
  /-- Nothing, and no statement. -/
  | refuse (violation : Violation)

/-! ## Columns and values -/

/-- A column as it stands in a statement of kind `mode`: alone without an alias, behind it in a
    SELECT, and between backticks elsewhere. -/
def columnSql (mode : Mode) (aliasName : Option String) (column : String) : String :=
  match aliasName with
  -- An alias that is empty counts as none here, though not in `Field.qualifier`.
  | none | some "" => column
  | some aliasName => if mode = .select then aliasName ++ "." ++ column else "`" ++ column ++ "`"

/-- The column of a field as it stands in the statement. -/
def fieldSql (q : Query) (f : Field) : String := columnSql q.builder.mode f.tableAlias f.column

/-- The element of a type that the value of a name is worth, if `accept` takes it and, where there
    is no `accept`, it is not an empty sequence. -/
def lookup? (bag : Bag) (t : FieldType) (key : String) (accept : Option (t.Carrier → Bool)) :
    Option t.Carrier :=
  let present :=
    match accept with
    | some p => bag.isContainsWith t key p
    | none => bag.isContains t key (-1)
  if present then (bag.value? key).bind t.coerce? else none

/-- The operator that the request chooses for a column. -/
def requestedOperator (q : Query) (column : String) : Comparison :=
  match q.bag with
  | some bag => bag.get .comparison (Comparison.keyFor column) .equal
  | none => .equal

/-- The value that a comparison binds: a text is searched for anywhere in the column. -/
def operand : Comparison → Value → Value
  | .like, .text s => .text ("%" ++ s ++ "%")
  | _, v => v

/-- The call for a comparison of a column with a parameter. -/
def compare (columnSql param : String) (operator : Comparison) (value : Value) : Builder.Call :=
  .condition (columnSql ++ " " ++ operator.sql ++ " @" ++ param) [operand operator value]

/-- The call for a column between two values. -/
def betweenBounds (q : Query) (f : Field) (low high : Value) : Builder.Call :=
  .condition (q.fieldSql f ++ " BETWEEN @" ++ f.column ++ "1 AND @" ++ f.column ++ "2")
    [low.roundTrip, high.roundTrip]

/-! ## Outcomes -/

namespace Outcome

/-- The outcome for a field that must have its name and its column. -/
def forField (f : Field) (call : String) (next : Outcome) : Outcome :=
  if f.isIncomplete then refuse (.emptyField call) else next

/-- The outcome for a call that looks into the request. -/
def forBag (q : Query) (call : String) (next : Bag → Outcome) : Outcome :=
  match q.bag with
  | some bag => next bag
  | none => refuse (.noBag call)

/-- The outcome for a value that the request may lack. -/
def forSome {α : Type} (x : Option α) (next : α → Outcome) : Outcome :=
  match x with
  | some x => next x
  | none => skip

end Outcome

/-- What the order of the request comes down to. -/
def requestedOrder (bag : Bag) : Outcome :=
  if bag.isContains .text Bag.orderByKey (-1) then
    let requested : String := bag.get .text Bag.orderByKey ""
    let isAscending : Bool := bag.get .bool Bag.ascendingKey false
    let text := Text.trim requested
    -- The text comes from outside, so it reaches the statement only as an identifier.
    match Ident.read text with
    | .ok ident => .emit (.orderBy ident.sql (.ofAscending isAscending))
    | .error fault => .dropOrder requested (.identifier text fault)
  else .skip

/-- What a call comes down to. -/
def outcome (q : Query) : Call → Outcome
  | .configure config => .emit (.configure config)
  | .table aliasName => .emit (.tableAs q.model.table aliasName)
  | .tableOf model aliasName => .emit (.tableAs model.table aliasName)
  | .insert => .emit (.insert q.model.table)
  | .update => .emit (.update q.model.table)
  | .delete => .emit (.delete q.model.table)
  | .when f accept operator =>
    .forField f "when" <| .forBag q "when" fun bag =>
      .forSome (lookup? bag f.type f.name accept) fun x =>
        .emit (compare (q.fieldSql f) f.column
          (operator.getD (q.requestedOperator f.column)) (f.type.embed x))
  | .whenRaw t expr param =>
    if expr = "" then .refuse (.emptyExpression "when_raw")
    else
      let param := if param = "" then Placeholder.cleanLast expr else param
      .forBag q "when_raw" fun bag =>
        .forSome (lookup? bag t param none) fun x =>
          .emit (compare expr param (q.requestedOperator param) (t.embed x))
  | .between f accept =>
    .forField f "between" <| .forBag q "between" fun bag =>
      let present :=
        match accept with
        | some p => bag.isContainsWith (.list f.type) f.name fun xs =>
            List.length xs = 2 && p xs
        | none => bag.isContains (.list f.type) f.name 2
      if present then
        match bag.getArray? f.type f.name with
        | some (low :: high :: _) =>
          .emit (q.betweenBounds f (f.type.embed low) (f.type.embed high))
        | _ => .skip
      else .skip
  | .betweenValues f low high => .forField f "between" (.emit (q.betweenBounds f low high))
  | .set f accept =>
    .forField f "set" <| .forBag q "set" fun bag =>
      .forSome (lookup? bag f.type f.name accept) fun x =>
        .emit (.set f.column (f.type.embed x))
  | .setValue f v => .forField f "set" (.emit (.set f.column v))
  | .setLiteral f expr => .forField f "set" (.emit (.setLiteral f.column expr))
  | .value f v => .forField f "value" (.emit (.value ("`" ++ f.column ++ "`") v))
  | .valueLiteral f expr => .forField f "value" (.emit (.valueLiteral f.column expr))
  | .duplicate f expr => .emit (.duplicate f.column expr)
  | .selectIdentity => .emit .selectIdentity
  | .conditionOn f text args =>
    .forField f "where" <|
      if text = "" then .refuse (.emptyCondition "where")
      else .emit (.condition (q.fieldSql f ++ " " ++ text) args)
  | .condition text args => .emit (.condition text args)
  | .conditionIn f values =>
    if values.isEmpty then .skip
    else
      -- Outside of a SELECT the column stands alone, without its alias and without backticks.
      let column := if q.builder.mode = .select then q.fieldSql f else f.column
      .emit (.conditionIn column values)
  | .joinOn kind f equals =>
    .forField f "join" <| .forField equals "join" <|
      .emit (.join kind f.model.table (f.tableAlias.getD "")
        (f.qualified ++ " = " ++ equals.qualified))
  | .joinIf kind f text =>
    .forField f "join" <|
      if text = "" then .refuse (.emptyCondition "join")
      else .emit (.join kind f.model.table (f.tableAlias.getD "") (f.qualified ++ " " ++ text))
  | .orderByRequest => .forBag q "order_by" requestedOrder
  | .orderBy f direction => .forField f "order_by" (.emit (.orderBy (q.fieldSql f) direction))
  | .groupBy f => .forField f "group_by" (.emit (.groupBy [q.fieldSql f]))
  | .selectFields fields => .emit (.select (fields.map Field.qualified))
  | .selectAs f aliasName =>
    .forField f "select" (.emit (.select [Builder.aliased f.qualified aliasName]))
  | .select columns => .emit (.select columns)
  | .clearSelect => .emit .clearSelect
  | .limit offset rows => .emit (.limit offset rows)
  | .forUpdate => .emit .forUpdate
  | .pageOfRequest countRows totals =>
    .forBag q "page" fun bag =>
      let config := q.builder.config
      .emit (.page (bag.get (.int .int32) Bag.pageIndexKey config.pageIndex)
        (bag.get (.int .int32) Bag.pageSizeKey config.pageSize) countRows totals)
  | .page index size countRows totals => .emit (.page index size countRows totals)
  | .gated isOpen call => if isOpen then q.outcome call else .skip

/-! ## Effects -/

/-- Record a violation, unless there is one already. -/
def refuse (q : Query) (v : Violation) : Query := { q with violation := q.violation.or (some v) }

/-- The effect of an outcome. -/
def accept (q : Query) : Outcome → Query
  | .emit call => { q with builder := q.builder.apply call }
  | .skip => q
  | .dropOrder .. => q
  | .refuse v => q.refuse v

/-- The effect of a call. -/
def apply (q : Query) (call : Call) : Query := q.accept (q.outcome call)

/-- The effect of calls one after the other. -/
def run (q : Query) (calls : List Call) : Query := calls.foldl apply q

/-- What a call reports. -/
def events (q : Query) (call : Call) : List Event :=
  match q.outcome call with
  | .emit call => call.events
  | .skip => []
  | .dropOrder requested e => [.orderDropped requested (Error.precondition e).message]
  | .refuse v => [.violation q.model.table v.message]

/-- The text of the statement, or why there is none: the first violation comes before anything
    else. -/
def render (q : Query) : Except Error String :=
  match q.violation with
  | some v => .error (.precondition (.violation v))
  | none => q.builder.render.mapError .configuration

/-- What rendering reports. -/
def renderEvents (q : Query) : List Event :=
  match q.violation with
  | some _ => []
  | none => q.builder.renderEvents

/-- The statement with its parameters, or why there is none. -/
def build (q : Query) : Except Error Statement :=
  match q.violation with
  | some v => .error (.precondition (.violation v))
  | none => q.builder.build.mapError .configuration

end Query

end SqlAssembly
