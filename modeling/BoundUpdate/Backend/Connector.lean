import BoundUpdate.Backend.Client

namespace BoundUpdate

/-!
# Connectors

A connector opens a connection to the database of an entry, lends it to clients
and closes it.  The type of the database names the driver; the driver decides
how the parts of the entry are handed over.  Every operation answers the
connector afterwards, also when it failed.
-/

/-- The drivers by database type. -/
def driverTable : List (String × String) :=
  [("sqlite", "sqlite3"), ("mysql", "pymysql"), ("mariadb", "pymysql"),
   ("postgres", "psycopg2"), ("postgresql", "psycopg2")]

/-- What opens connections to a database. -/
structure Connector where
  entry : DatabaseEntry
  /-- The type of the database in lower case. -/
  type : Value
  options : Value
  autocommit : Bool
  /-- Seconds to wait for a connection. -/
  timeout : Value
  /-- What the driver opens. -/
  opens : Connection
  /-- The open connection. -/
  held : Option Connection := none

namespace Connector

/-- The type of an entry in lower case. -/
def typeOf (e : DatabaseEntry) : Except Failure Value := do
  if ← e.type.truth then
    match e.type.text?, e.type with
    | some s, _ => return .text (String.ofList (Text.lower s.toList))
    | none, .bytes bs =>
      return .bytes (bs.map fun b => if 65 ≤ b.toNat ∧ b.toNat ≤ 90 then b + 32 else b)
    | none, v => Lookup.firstOutcome (Lookup.ask v "lower" [])
  else return .text ""

/-- The words that turn the autocommit mode off. -/
def offWords : List String := ["false", "0", "no"]

/-- The option of a name; a dictionary, a mapping or an object that tells them has options. -/
def option (options : Value) (name : String) (absent : Value) : Except Failure Value :=
  match options.entries? with
  | some entries => .ok (entries.getD name absent)
  | none => Lookup.firstOutcome (Lookup.ask options "get" [.text name, absent])

/-- Whether options leave the autocommit mode on. -/
def autocommitOf (options : Value) : Except Failure Bool := do
  let v ← option options "autocommit" (.bool true)
  return !offWords.contains (String.ofList (Text.lower (← v.plain?).toList))

/-- The connector for an entry. -/
def make (e : DatabaseEntry) (opens : Connection) : Act Connector := do
  let type ← Act.ofExcept (typeOf e)
  let options ← Act.ofExcept (e.options.orElse (.dict []))
  let autocommit ← Act.ofExcept (autocommitOf options)
  let held ← Settings.current
  let type ← Act.ofExcept type.asKey
  return { entry := e, type, options, autocommit, timeout := held.settings.connectTimeout, opens }

/-- The driver for the database. -/
def driver? (c : Connector) : Option String :=
  match c.type.text? with
  | some type => driverTable.lookup type
  | none => none

/-- The database as messages name it. -/
def description (c : Connector) : String :=
  let port := if c.entry.port.isTruthy then ":" ++ c.entry.port.plain else ""
  "the " ++ c.type.plain ++ " database '" ++ c.entry.database.plain ++ "' at " ++
    c.entry.host.plain ++ port

/-- Let the driver open a connection. -/
def opened (c : Connector) (driver : String) (positional : List Value)
    (named : List (String × Value)) : Act Connection := do
  Act.observe (.connect driver positional named)
  Connection.failWith c.opens.connectFailure
  c.opens.renewed

/-- The connection text for a server database that is given by parts. -/
def partsText (c : Connector) : Except Failure String := do
  let sslMode ← option c.options "sslmode" (.text "prefer")
  let e := c.entry
  let port ← e.port.orElse (.int 5432)
  return "host=" ++ e.host.plain ++ " port=" ++ port.plain ++ " dbname=" ++
    e.database.plain ++ " user=" ++ e.user.plain ++ " password=" ++ e.password.plain ++
    " connect_timeout=" ++ c.timeout.plain ++ " sslmode=" ++ sslMode.plain

/-- What an embedded database is opened with. -/
def openEmbedded (c : Connector) (driver : String) : Act Connection := do
  let database ← Act.ofExcept (c.entry.database.orElse (.text ":memory:"))
  c.opened driver [database]
    [("isolation_level", if c.autocommit then .none else .text "DEFERRED"),
     ("timeout", c.timeout)]

/-- What a server database that takes named parts is opened with. -/
def openNamed (c : Connector) (driver : String) : Act Connection := do
  let port ← Act.ofExcept (c.entry.port.orElse (.int 3306))
  c.opened driver []
    [("autocommit", .bool c.autocommit), ("connect_timeout", c.timeout),
     ("database", c.entry.database), ("host", c.entry.host), ("password", c.entry.password),
     ("port", port), ("user", c.entry.user)]

/-- What a server database that takes a connection text is opened with. -/
def openText (c : Connector) (driver : String) : Act Connection := do
  if ← Act.ofExcept c.entry.dsn.truth then c.opened driver [c.entry.dsn] []
  else c.opened driver [.text (← Act.ofExcept c.partsText)] []

/-- An outcome together with the connector afterwards. -/
abbrev After (α : Type) := Connector × Except Failure α

/-- Open the connection. -/
def openWith (c : Connector) (driver : String) : Act Connection :=
  match Dialect.ofType (c.type.text?.getD "") with
  | .sqlite => c.openEmbedded driver
  | .mysql => c.openNamed driver
  | _ => c.openText driver

/-- Make a new connection ready for use and note that it is. -/
def greet (c : Connector) (connection : Connection) : Act Unit := do
  match Dialect.ofType (c.type.text?.getD "") with
  | .sqlite =>
    Act.note .info .connection
      ("Connected to the sqlite database '" ++ c.entry.database.plain ++ "'")
  | .mysql =>
    let n ← connection.threadNumber
    Act.note .info .connection
      ("Connected to " ++ c.description ++ ", connection thread: " ++ Number.intText n)
  | _ =>
    connection.setAutocommit c.autocommit
    let n ← connection.status
    Act.note .info .connection
      ("Connected to " ++ c.description ++ ", connection status: " ++ Number.intText n)

/-- The failure that leaves a connector whose driver failed: an interruption stays as it is, any
other failure becomes a failure to connect. -/
def escalate (c : Connector) (failure : Failure) : Act Failure := do
  if failure.isOrdinary then
    let attempt := "Failed to connect to " ++ c.description
    Act.note .error .connection (attempt ++ ": " ++ failure.text)
    return .connection (.failed failure.toCause attempt)
  else return failure

/-- Open a connection with a driver and make it ready.  A connection that was opened is held also
when it could not be made ready. -/
def connectWith (c : Connector) (driver : String) : Act (After Connection) := do
  match ← Act.attempt (c.openWith driver) with
  | .error failure => return (c, .error (← c.escalate failure))
  | .ok connection =>
    let c := { c with held := some connection }
    match ← Act.attempt (c.greet connection) with
    | .error failure => return (c, .error (← c.escalate failure))
    | .ok () => return (c, .ok connection)

/-- Connect to the database. -/
def connect (c : Connector) : Act (After Connection) := do
  match c.driver? with
  | none => return (c, .error (.connection (.unsupported c.type.plain)))
  | some driver =>
    if ((← Act.surroundings).drivers.lookup driver).isSome then
      match c.entry.port.truth with
      | .ok _ => c.connectWith driver
      | .error failure => return (c, .error failure)
    else return (c, .error (.raised .missingModule (Client.missingDriverText driver)))

/-- The client of a connection. -/
def clientOf (c : Connector) (connection : Connection) : Client :=
  { type := c.type
    name := c.entry.database
    driver := match c.driver? with
      | some driver => .text driver
      | none => .none
    connection := some connection }

/-- A client with the open connection, or with a new one. -/
def client (c : Connector) : Act (After Client) := do
  match c.held with
  | some connection => return (c, .ok (c.clientOf connection))
  | none =>
    let (c, outcome) ← c.connect
    return (c, outcome.map c.clientOf)

/-- Close a connection; an ordinary failure of closing is only noted. -/
def closeConnection (c : Connector) (connection : Connection) : Act Unit := do
  match ← Act.attempt connection.close with
  | .ok () =>
    Act.note .info .connection
      ("Closed connection to " ++ c.type.plain ++ " database '" ++ c.entry.database.plain ++ "'")
  | .error failure =>
    if failure.isOrdinary then
      Act.note .warning .connection ("Failed to close connection: " ++ failure.text)
    else throw failure

/-- Close the open connection. -/
def close (c : Connector) : Act (After Unit) := do
  match c.held with
  | none => return (c, .ok ())
  | some connection =>
    let outcome ← Act.attempt (c.closeConnection connection)
    return ({ c with held := none }, outcome)

/-- Close the open connection and let a failure of closing escape. -/
def release (c : Connector) : Act Unit := do
  let (_, outcome) ← c.close
  Act.ofExcept outcome

end Connector

/-- Work with a client of a new connection to the database of an entry; the connection is closed in
any case, and a failure of closing wins. -/
def withEntry {α : Type} (e : DatabaseEntry) (opens : Connection) (body : Client → Act α) :
    Act α := do
  let connector ← Connector.make e opens
  let (connector, outcome) ← connector.client
  let work : Act α := do body (← Act.ofExcept outcome)
  Act.ensuring work connector.release

/-- Work with a client of a new connection to a database by name. -/
def withDatabase {α : Type} (name : Value) (opens : Connection) (body : Client → Act α) :
    Act α := do
  withEntry (← Settings.requireCurrent name) opens body

end BoundUpdate
