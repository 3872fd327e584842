import BoundUpdate.Json.Reader
import BoundUpdate.Settings.Coercion
import BoundUpdate.Settings.Entry
import BoundUpdate.Settings.Location
import BoundUpdate.Text.Utf8

namespace BoundUpdate
namespace Settings

/-!
# Sources of settings

Settings come from two files, one with databases only, or from variables with a
common start of their names.  Both sources give descriptions of databases and
raw values for the rest; the databases are read first, in order, then the rest.
-/

/-!
## Documents with settings

Settings are written as JSON, in files or in variables.
-/

/-- The value of a JSON text; `wrap` makes the fault of a malformed text. -/
def parseDocument (wrap : Cause → ConfigurationFault) (s : List Char)
    (nesting : Nat := Nesting.usual) : Except Failure Value :=
  match Json.read s nesting with
  | .ok v => .ok v
  | .error e =>
    let failure := e.failure s
    .error (if failure.kind = .malformedJson then .configuration (wrap failure.toCause)
      else failure)

/-- The value of the document in a file at a location whose first step is no home directory. -/
def readFile (s : Surroundings) (l : Location) : Except Failure Value :=
  match l.find s with
  | .nothing => .error (.configuration (.fileNotFound l.text))
  | .directory => .error (.elementary .isDirectory ("Is a directory: '" ++ l.text ++ "'"))
  | .refused className reason =>
    .error (.elementary (.other className) (reason ++ ": '" ++ l.text ++ "'"))
  | .file bytes =>
    match Text.Utf8.decode? bytes with
    | none => .error (.elementary .undecodable "invalid UTF-8")
    | some text => parseDocument (.malformedFile l.text) (Text.unifyLines text) s.nesting

/-- The value of the document in a file. -/
def readDocument (s : Surroundings) (l : Location) : Except Failure Value :=
  match l.fromHome? s with
  | none => .error (.raised .runtime "Could not determine home directory.")
  | some l => readFile s l

/-! ## Settings from documents and variables -/

/-- The settings that are not databases, as they were found. -/
structure Tuning where
  timeout : Value
  prefixes : Value
  snakeCase : Value
  logsBoundValues : Value

namespace Tuning

/-- The names of the settings that are not databases. -/
def timeoutName : String := "connect_timeout"

def prefixesName : String := "accessor_prefixes"

def snakeCaseName : String := "accessor_snake_case"

def logsBoundValuesName : String := "log_bound_values"

/-- The name that the variable of a setting ends with. -/
def variableName (name : String) : String := String.ofList (Text.upper name.toList)

/-- The tuning that entries of a document give. -/
def ofEntries (d : Value.Entries) : Tuning where
  timeout := d.getD timeoutName (.int 40)
  prefixes := d.getD prefixesName (.tuple [.text "get", .text "is"])
  snakeCase := d.getD snakeCaseName (.bool true)
  logsBoundValues := d.getD logsBoundValuesName (.bool false)

/-- The tuning that variables give. -/
def ofVariables (s : Surroundings) (start : String) : Tuning :=
  let get := fun (name absent : String) =>
    Value.text ((s.valueOf? (start ++ variableName name)).getD absent)
  { timeout := get timeoutName "40"
    prefixes := get prefixesName "get,is"
    snakeCase := get snakeCaseName "true"
    logsBoundValues := get logsBoundValuesName "false" }

end Tuning

/-- The entries of databases from their descriptions. -/
def readEntries (nesting : Nat) (environment : List (String × String)) :
    Value.Entries → Except Failure (List (Value × DatabaseEntry))
  | [] => .ok []
  | (name, v) :: rest => do
    let entry ← DatabaseEntry.read nesting environment v
    let others ← readEntries nesting environment rest
    return (name, entry) :: others

/-- Settings with given databases; `label` gives the names that messages use. -/
def assemble (databases : List (Value × DatabaseEntry)) (defaultDatabase : Value)
    (tuning : Tuning) (label : String → String) : Except Failure Settings := do
  let connectTimeout ← Coercion.toInt tuning.timeout (label Tuning.timeoutName)
  let prefixes ← Coercion.toPrefixes tuning.prefixes
  let snakeCase ← Coercion.toBool tuning.snakeCase (label Tuning.snakeCaseName)
  let logsBoundValues ←
    Coercion.toBool tuning.logsBoundValues (label Tuning.logsBoundValuesName)
  return { databases, defaultDatabase, connectTimeout := .int connectTimeout,
           accessorPrefixes := prefixes.filterMap Value.text?, accessorSnakeCase := .bool snakeCase,
           logsBoundValues := .bool logsBoundValues }

/-- The document of an optional file; without a file it is empty. -/
def optionalDocument (s : Surroundings) : Option Location → Except Failure Value
  | none => .ok (.dict [])
  | some l => readDocument s l

/-- The entries of a document that must be an object; `wanted` is what is read from it. -/
def objectEntries (wanted : String) (v : Value) : Except Failure Value.Entries :=
  match v with
  | .dict entries => .ok entries
  | v => .error (.elementary .missingAttribute
      ("'" ++ v.qualifiedTypeName ++ "' object has no attribute '" ++ wanted ++ "'"))

/-- The settings in two documents; databases of the main one win over those of the other. -/
def ofDocuments (nesting : Nat) (environment : List (String × String)) (main infos : Value) :
    Except Failure Settings := do
  let shared ← (← infos.orElse (.dict [])).toEntries
  let entries ← objectEntries "get" main
  let own ← (← (entries.getD "databases" .none).orElse (.dict [])).toEntries
  let databases ← readEntries nesting environment (Value.Entries.merge shared own)
  assemble databases (entries.getD "default_db" .none) (.ofEntries entries) id

/-- The settings in two files, each of which may be left out. -/
def fromFiles (s : Surroundings) (main infos : Option Location) : Except Failure Settings := do
  let document ← optionalDocument s main
  let shared ← optionalDocument s infos
  ofDocuments s.nesting s.environment document shared

/-- A variable that is set to something. -/
def filled? (s : Surroundings) (name : String) : Option String :=
  (s.valueOf? name).filter fun value => !value.isEmpty

/-- The location that a variable names, unless it is empty. -/
def locationIn (s : Surroundings) (name : String) : Option Location :=
  (s.valueOf? name).bind Location.ofPath?

/-- The descriptions of databases that stand in a variable. -/
def inlineDescriptions (s : Surroundings) (start : String) : Except Failure Value :=
  let name := start ++ "DATABASES_JSON"
  match filled? s name with
  | none => .ok (.dict [])
  | some inline =>
    (parseDocument (.malformedVariable name) inline.toList s.nesting).bind
      (Reference.expanded s.nesting s.environment)

/-- The descriptions of databases that stand in a variable or, without any, in the file that
another one names. -/
def descriptions (s : Surroundings) (start : String) : Except Failure Value := do
  let inline ← inlineDescriptions s start
  if inline.isTruthy then return inline
  else
    match locationIn s (start ++ "DBINFOS_PATH") with
    | none => return inline
    | some l => Reference.expanded s.nesting s.environment (← readDocument s l)

/-- The descriptions of databases with the one that two variables describe. -/
def allDescriptions (s : Surroundings) (start : String) : Except Failure Value := do
  let found ← descriptions s start
  match filled? s (start ++ "DB_KEY"), filled? s (start ++ "DB_DSN") with
  | some key, some dsn =>
    match found.entries? with
    | some entries =>
      let own := Value.dict
        [(.text "dsn", .text (Reference.expandText s.environment dsn))]
      return .dict (Value.Entries.insert entries (.text key) own)
    | none => throw (.elementary .wrongType
        ("'" ++ found.qualifiedTypeName ++ "' object is not a mapping"))
  | _, _ => return found

/-- The database that variables make the default one. -/
def defaultIn (s : Surroundings) (start : String) (names : List Value) : Value :=
  match filled? s (start ++ "DB_DEFAULT"), s.valueOf? (start ++ "DB_KEY") with
  | some name, _ => .text name
  | none, some key => if names.any (Value.sameKey (.text key)) then .text key else .none
  | none, none => .none

/-- The settings in variables whose names start alike. -/
def fromVariables (s : Surroundings) (start : String) : Except Failure Settings := do
  let found ← allDescriptions s start
  let entries ← objectEntries "items" found
  let databases ← readEntries s.nesting s.environment entries
  assemble databases (defaultIn s start (databases.map Prod.fst)) (.ofVariables s start)
    fun name => start ++ Tuning.variableName name

end Settings
end BoundUpdate
