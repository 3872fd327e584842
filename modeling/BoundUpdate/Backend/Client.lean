import BoundUpdate.Backend.Database
import BoundUpdate.Lookup.Attribute
import BoundUpdate.Settings.Active
import BoundUpdate.Value.Dictionary

namespace BoundUpdate

/-!
# Clients

A client offers a connection and tells the type and name of its database and
the driver of the connection.  The type decides how a unit for the client is
built; for a database of no known type the driver is asked for its bind markers.
-/

/-- A connection with what is known about its database. -/
structure Client where
  type : Value := .none
  name : Value := .none
  /-- The driver of the connection. -/
  driver : Value := .none
  connection : Option Connection := none
  /-- Whether the client says anything about a connection. -/
  mentionsConnection : Bool := true

namespace Dialect

/-- The dialect of a database type in lower case. -/
def ofType (type : String) : Dialect :=
  if type = "postgres" ∨ type = "postgresql" then .postgres
  else if type = "mysql" ∨ type = "mariadb" then .mysql
  else if type = "sqlite" then .sqlite
  else .generic

end Dialect

namespace Client

/-- The dialect of a client's database. -/
def dialect (c : Client) : Except Failure Dialect := do
  if ← c.type.truth then
    match c.type.text?, c.type with
    | some s, _ => return .ofType (String.ofList (Text.lower s.toList))
    | none, .bytes _ => return .generic
    | none, v =>
      let told ← Lookup.firstOutcome (Lookup.ask v "lower" [])
      return .ofType (told.text?.getD "")
  else return .generic

/-- The drivers whose bind markers are known. -/
def formatDrivers : List String := ["psycopg2", "pymysql"]

/-- The marker style of a client's driver, as far as it is known without asking. -/
def knownStyle (c : Client) : MarkerStyle :=
  match c.driver.text? with
  | some name => if formatDrivers.contains name then .format else .qmark
  | none => .qmark

/-- The marker style of a dialect's driver; a database of no known type keeps the given one. -/
def styleOf (known : MarkerStyle) : Dialect → MarkerStyle
  | .sqlite => .qmark
  | .mysql => .format
  | .postgres => .format
  | .generic => known

/-- The text of the failure to load a driver. -/
def missingDriverText (name : String) : String := "No module named '" ++ name ++ "'"

/-- The word for the marker style that a driver tells; a driver that tells none has the first
style, and `none` means that the driver cannot be loaded. -/
def toldStyle? (s : Surroundings) (driver : Value) : Option String :=
  match driver.text? with
  | some name => (s.drivers.lookup name).map fun word => word.getD MarkerStyle.qmark.word
  | none => none

/-- Ask a driver for its marker style. -/
def askStyle (driver : Value) (known : MarkerStyle) : Act MarkerStyle := do
  let name := driver.plain
  match toldStyle? (← Act.surroundings) driver with
  | none =>
    Act.note .warning .generic
      ("Could not check paramstyle for " ++ name ++ ": " ++ missingDriverText name)
    return known
  | some word =>
    Act.note .debug .generic
      ("Detected paramstyle '" ++ word ++ "' for driver '" ++ name ++ "'")
    match MarkerStyle.ofWord? word with
    | some style => return style
    | none =>
      Act.note .warning .generic
        ("Paramstyle '" ++ word ++ "' is not supported, using '" ++ known.word ++ "'")
      return known

/-- The marker style of a database; the driver is asked for it if the database has no known type. -/
def markerStyle (c : Client) (dialect : Dialect) : Act MarkerStyle := do
  let known := styleOf c.knownStyle dialect
  if dialect = .generic then
    if ← Act.ofExcept c.driver.truth then askStyle (← Act.ofExcept c.driver.asKey) known
    else return known
  else return known

/-- The database of a client. -/
def database (c : Client) : Act Database := do
  let dialect ← Act.ofExcept c.dialect
  unless c.mentionsConnection do
    throw (.elementary .missingKey "'conn'")
  let held ← Settings.current
  let style ← c.markerStyle dialect
  return { dialect, connection := c.connection, type := c.type, name := c.name,
           driver := c.driver, style := style.word,
           logsBoundValues := held.settings.logsBoundValues }

/-- The unit of a client. -/
def unit (c : Client) : Act ExecutionUnit := do
  let d ← c.database
  return d.unit

end Client
end BoundUpdate
