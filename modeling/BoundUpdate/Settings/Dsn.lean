import BoundUpdate.Settings.Address
import BoundUpdate.Text.Percent
import BoundUpdate.Value.Equality

namespace BoundUpdate

/-!
# Data source names

A database may be named by an address: its scheme is the type of the database,
possibly with a driver after a plus sign, and its query holds options.  A name
that is no address is the path of an embedded database.
-/

/-- The parts of a data source name. -/
structure Dsn where
  type : String
  options : Value.Entries := []
  user : Option String := none
  password : Option String := none
  /-- The host and the port; an embedded database has no server. -/
  server : Option (Value × Value) := none
  database : Value := .none

namespace Dsn

/-- The type that a scheme names. -/
def typeOfScheme (scheme : List Char) : List Char := Text.lower (Text.before '+' scheme)

/-- The names and values of a query; pairs without a value are dropped. -/
def pairs (query : List Char) : List (String × String) :=
  (Text.splitOn '&' query).filterMap fun part =>
    match Text.cut? '=' part with
    | some (name, c :: value) =>
      some (String.ofList (Text.unescapeQuery name),
        String.ofList (Text.unescapeQuery (c :: value)))
    | _ => none

/-- The options of some pairs: a name that occurs once has its value, any other one the list of its
values. -/
def optionsOf (found : List (String × String)) : Value.Entries :=
  (found.map Prod.fst).eraseDups.map fun name =>
    let values := (found.filter fun pair => pair.1 == name).map fun pair => Value.text pair.2
    (.text name, match values with
      | [v] => v
      | values => .list values)

/-- A text, or nothing if it is empty. -/
def nonEmpty (s : List Char) : Value :=
  if s.isEmpty then .none else .text (String.ofList s)

/-- A text with its escapes replaced. -/
def unescaped (s : List Char) : String := String.ofList (Text.unescape s)

/-- The mark that tells an address from a path. -/
def mark : List Char := [':', '/', '/']

/-- The parts that an address names. -/
def ofAddress (a : Address) : Except Failure Dsn := do
  let type := typeOfScheme a.scheme
  let options := optionsOf (pairs a.query)
  let (user, password) := a.credentials
  let base : Dsn :=
    { type := String.ofList type, options, user := user.map unescaped,
      password := password.map unescaped }
  let path := a.plainPath
  if base.type = "sqlite" then
    let path := match path with
      | '/' :: rest => rest
      | path => path
    return { base with
      database := if path.isEmpty then .text ":memory:" else .text (String.ofList path) }
  else
    let port ← a.port
    return { base with
      server := some (nonEmpty a.host, match port with
        | some n => .int n
        | none => .none)
      database := nonEmpty (path.dropWhile (· == '/')) }

/-- The parts of a data source name. -/
def read (dsn : Value) : Except Failure Dsn :=
  match dsn.text? with
  | some s =>
    if Text.occursIn mark s.toList then do ofAddress (← Address.read s.toList)
    else .ok { type := "sqlite", database := dsn }
  | none => .ok { type := "sqlite", database := dsn }

/-- Whether a value holds the mark of an address: a text as a part, a container as an item. -/
def holdsMark (dsn : Value) : Except Failure Bool :=
  match dsn.text?, dsn with
  | some s, _ => .ok (Text.occursIn mark s.toList)
  | none, .bytes _ =>
    .error (.elementary .wrongType "a bytes-like object is required, not 'str'")
  | none, v =>
    match v.items?, v.askWith? "__contains__" 1 with
    | some items, _ => .ok (items.any (Value.sameKey (.text (String.ofList mark))))
    | none, some outcome => outcome.bind Value.truth
    | none, none =>
      .error (.elementary .wrongType
        ("argument of type '" ++ v.qualifiedTypeName ++ "' is not iterable"))

/-- The type that a data source name tells, if it tells one. -/
def typeOf (dsn : Value) : Except Failure (Option String) := do
  if !(← dsn.truth) then return none
  else if ← holdsMark dsn then
    match dsn.text? with
    | none => .error (.elementary .missingAttribute
        ("'" ++ dsn.qualifiedTypeName ++ "' object has no attribute 'decode'"))
    | some s =>
      let a ← Address.read s.toList
      return if a.scheme.isEmpty then none else some (String.ofList (typeOfScheme a.scheme))
  else return none

/-- The parts as entries. -/
def entries (d : Dsn) : Value.Entries :=
  let optional := fun (name : String) (v : Option String) =>
    match v with
    | some s => [(Value.text name, Value.text s)]
    | none => []
  let server := match d.server with
    | some (host, port) => [(Value.text "host", host), (.text "port", port)]
    | none => []
  [(.text "type", .text d.type), (.text "query", .dict d.options)] ++
    optional "user" d.user ++ optional "password" d.password ++ server ++
    [(.text "database", d.database)]

end Dsn
end BoundUpdate
