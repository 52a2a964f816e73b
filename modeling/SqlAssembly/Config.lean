import SqlAssembly.Json.Basic

/-! # Settings of a builder

* `LogLevel`         how severe the event of a rendered statement is
* `Config`           the settings; `Config.default` has page 1 of 20 rows and logs 200 bytes
* `Config.ofJson?`   the settings of a JSON value -/

namespace SqlAssembly

/-- How severe an event is. -/
inductive LogLevel where
  | error
  | warn
  | info
  | debug
  | trace
deriving DecidableEq, Repr

namespace LogLevel

/-- All levels, the most severe one first. -/
def all : List LogLevel := [error, warn, info, debug, trace]

/-- The name of the level in capitals. -/
def name : LogLevel → String
  | error => "ERROR"
  | warn => "WARN"
  | info => "INFO"
  | debug => "DEBUG"
  | trace => "TRACE"

/-- The name of the level in settings. -/
def key : LogLevel → String
  | error => "error"
  | warn => "warn"
  | info => "info"
  | debug => "debug"
  | trace => "trace"

/-- The level of that name in settings. -/
def ofKey? (s : String) : Option LogLevel := all.find? fun l => l.key = s

theorem ofKey?_key (l : LogLevel) : ofKey? l.key = some l := by cases l <;> decide

end LogLevel

/-- The settings of a builder. -/
structure Config where
  /-- The page shown where the request names none. -/
  pageIndex : IntWidth.int32.Carrier
  /-- The rows of a page where the request gives no number. -/
  pageSize : IntWidth.int32.Carrier
  /-- The level of the event of a rendered statement. -/
  logLevel : LogLevel
  /-- How many bytes of a rendered statement are logged; none for all of them. -/
  maxLogBytes : Option Nat
deriving DecidableEq

namespace Config

/-- Page 1 of 20 rows, logged at debug level up to 200 bytes. -/
def default : Config := ⟨⟨1, by decide, by decide⟩, ⟨20, by decide, by decide⟩, .debug, some 200⟩

instance : Inhabited Config := ⟨default⟩

/-- A level given by its name, or by its name as the only field of an object. -/
def readLevel? : Json → Option LogLevel
  | .string s => LogLevel.ofKey? s
  | .object [(s, .null)] => LogLevel.ofKey? s
  | _ => none

/-- A limit given by a number of bytes, or none by null. -/
def readLimit? : Json → Option (Option Nat)
  | .null => some none
  | j => (j.int? .uintWord).map fun n => some n.val.toNat

/-- Set the setting that a JSON value gives to a name.  Names of no setting do not count. -/
def setNamed? (c : Config) (name : String) (j : Json) : Option Config :=
  if name = "default_page_index" then (j.int? .int32).map fun n => { c with pageIndex := n }
  else if name = "default_page_size" then (j.int? .int32).map fun n => { c with pageSize := n }
  else if name = "log_level" then (readLevel? j).map fun l => { c with logLevel := l }
  else if name = "max_log_sql_length" then
    (readLimit? j).map fun n => { c with maxLogBytes := n }
  else some c

/-- The names of the settings in their order. -/
def names : List String :=
  ["default_page_index", "default_page_size", "log_level", "max_log_sql_length"]

/-- Set one setting after the other. -/
def setAll? (fields : Json.Fields) : Option Config :=
  fields.foldlM (fun c f => c.setNamed? f.1 f.2) default

/-- The settings of a JSON value: an object with a field per setting, or an array of settings in
    their order.  What is not given has its default. -/
def ofJson? : Json → Option Config
  | .object fields => setAll? fields
  | .array items => if names.length < items.length then none else setAll? (names.zip items)
  | _ => none

end Config

end SqlAssembly
