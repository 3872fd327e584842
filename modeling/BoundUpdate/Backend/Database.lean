import BoundUpdate.Backend.Connection
import BoundUpdate.Backend.Returning
import BoundUpdate.Backend.Unit
import BoundUpdate.Declaration.Spec
import BoundUpdate.Template.Marker
import BoundUpdate.Value.Dictionary
import BoundUpdate.Value.Position

namespace BoundUpdate

/-!
# Databases as execution units

A database unit sends prepared statements over a connection.  Databases differ
in their bind markers and in how they report generated keys: in the rows of a
returning clause or by the last key of a cursor.
-/

/-- The differences between databases. -/
inductive Dialect where
  | sqlite
  | mysql
  | postgres
  /-- Any other database. -/
  | generic
  deriving DecidableEq, Repr

/-- A database with a connection to it. -/
structure Database where
  dialect : Dialect
  connection : Option Connection
  type : Value := .none
  name : Value := .none
  /-- The driver of the connection. -/
  driver : Value := .none
  /-- The word for the style of bind markers. -/
  style : String := "qmark"
  /-- Counts as true when bound values may be noted. -/
  logsBoundValues : Value := .bool false

namespace Database

/-- The numbers of a version text. -/
def versionNumbers (version : String) : List Nat :=
  (Text.splitOn '.' version.toList).map Number.readDigits

/-- Whether a list of numbers comes before another one, number by number. -/
def precedes : List Nat → List Nat → Bool
  | [], [] => false
  | [], _ :: _ => true
  | _ :: _, [] => false
  | a :: as, b :: bs => a < b || (a == b && precedes as bs)

/-- Whether keys are read from a returning clause. -/
def usesReturning (d : Database) (keys : KeyRequest) (columns : List Value) : Act Bool := do
  match d.dialect with
  | .postgres => return true
  | .sqlite =>
    if keys != .columns || columns.isEmpty then return false
    else
      let version := (← Act.surroundings).sqliteVersion
      if precedes (versionNumbers version) [3, 35, 0] then
        Act.note .warning .sqlite
          ("SQLite " ++ version ++ " has no RETURNING; falling back to lastrowid")
        return false
      else return true
  | .mysql => return false
  | .generic => return false

/-- Prepare a statement. -/
def prepare (d : Database) (t : Template) (keys : KeyRequest) (columns : List Value) :
    Act Statement := do
  let sql ← Act.ofExcept (t.renderAs d.style)
  let returning ← if keys.isWanted then d.usesReturning keys columns else pure false
  let sql ← if returning then Act.ofExcept (Returning.append sql columns) else pure sql
  Act.note .debug .unit ("Prepared SQL: " ++ sql)
  return { template := t, sql, keys, keyColumns := columns, returning }

/-- Entries that name values by their position; the first one has the given position. -/
def namedFrom (position : Nat) : List Value → Value.Entries
  | [] => []
  | v :: rest => (.text ("p" ++ Number.natText position), v) :: namedFrom (position + 1) rest

/-- The parameters in the form that the driver takes. -/
def driverParameters (d : Database) (values : List Value) : Value :=
  if d.style = MarkerStyle.named.word then .dict (namedFrom 1 values) else .tuple values

/-- The rows of a returning clause as tuples. -/
def returnedKeys : List Value → Except Failure (List Value)
  | [] => .ok []
  | row :: rest => do
    let items ← row.toItems
    let others ← returnedKeys rest
    return .tuple items :: others

/-- As many consecutive keys as rows were affected, from the first one on. -/
def consecutiveKeys (first : Value) (rowCount : Int) : Except Failure (List Value) :=
  (List.range rowCount.toNat).mapM fun (i : Nat) =>
    (first.plus i).map fun key => .tuple [key]

/-- The keys of a statement without returning clause: the last key, unless no row was affected. -/
def lastKey (r : Reply) : List Value :=
  match r.lastKey with
  | none => []
  | some .none => []
  | some key => if r.rowCount = some 0 then [] else [.tuple [key]]

/-- The keys that a driver without returning clauses tells by the first one. -/
def firstKeys (s : Statement) (r : Reply) : Act (List Value) := do
  unless s.keyColumns.isEmpty do
    let columns ← Act.ofExcept (Value.tuple s.keyColumns).plain?
    Act.note .debug .mysql ("MySQL ignores key columns " ++ columns ++ "; using lastrowid")
  match r.lastKey, r.rowCount with
  | none, _ =>
    throw (.elementary .missingAttribute "'Cursor' object has no attribute 'lastrowid'")
  | some key, rowCount =>
    if ← Act.ofExcept key.truth then
      match rowCount with
      | some n => Act.ofExcept (consecutiveKeys key n)
      | none => throw (.elementary .wrongType
          "'<=' not supported between instances of 'NoneType' and 'int'")
    else return []

/-- The generated keys of an executed statement. -/
def fetchKeys (d : Database) (s : Statement) (r : Reply) : Act (List Value) := do
  if d.dialect = .mysql then firstKeys s r
  else if s.returning then
    match r.rows with
    | none => return []
    | some _ => Act.ofExcept (returnedKeys (← Connection.fetch r))
  else return lastKey r

/-- The connection of a database. -/
def connected (d : Database) : Act Connection :=
  match d.connection with
  | some c => pure c
  | none =>
    throw (.elementary .missingAttribute "'NoneType' object has no attribute 'cursor'")

/-- The number of affected rows that a reply tells, if it tells one. -/
def knownRows (r : Reply) : Option Int :=
  match r.rowCount with
  | some n => if n < 0 then none else some n
  | none => none

/-- Note bound values, if they may be noted. -/
def noteValues (d : Database) (values : Value) : Act Unit := do
  if ← Act.ofExcept d.logsBoundValues.truth then
    Act.note .debug .unit ("Execute values: " ++ (← Act.ofExcept values.plain?))

/-- Send a statement and collect its keys; the number of affected rows is the number of keys when
the driver does not tell it. -/
def sendSingle (d : Database) (c : Connection) (s : Statement) : Act (Int × List Value) := do
  let r ← c.send s.sql (d.driverParameters s.parameters)
  let keys ← if s.wantsKeys then d.fetchKeys s r else pure []
  return ((knownRows r).getD keys.length, keys)

/-- Execute a statement once. -/
def executeSingle (d : Database) (s : Statement) : Act UnitResult := do
  Act.note .debug .unit ("Execute SQL: " ++ s.sql)
  d.noteValues (.list s.parameters)
  let c ← d.connected
  c.openCursor
  let (rows, keys) ← Act.ensuring (d.sendSingle c s) Connection.closeCursor
  Act.note .info .unit
    ("SQL statement succeeded. " ++ Number.intText rows ++ " rows is affected.")
  return { rowsAffected := rows, perRow := [rows], keys }

/-- Send a statement for every parameter list; answers the number of affected rows of each. -/
def sendBatch (d : Database) (c : Connection) (s : Statement) :
    List Value → Act (List Int)
  | [] => pure []
  | values :: rest => do
    d.noteValues values
    let parameters ← Act.ofExcept values.toItems
    let r ← c.send s.sql (d.driverParameters parameters)
    let others ← sendBatch d c s rest
    return (knownRows r).getD 0 :: others

/-- Execute a statement for every parameter list, one by one on one cursor. -/
def executeBatch (d : Database) (s : Statement) (sets : Value) : Act UnitResult := do
  Act.note .debug .unit ("Prepared Execute: " ++ s.sql)
  let count ← Act.ofExcept sets.count
  Act.note .debug .unit ("Values count: " ++ Number.natText count)
  let c ← d.connected
  c.openCursor
  let send : Act (List Int) := do d.sendBatch c s (← Act.ofExcept sets.toItems)
  let counts ← Act.ensuring send Connection.closeCursor
  let total := counts.foldl (· + ·) 0
  Act.note .info .unit
    ("Prepared execute completed with " ++ Number.natText counts.length ++ " executions, " ++
      Number.intText total ++ " rows affected")
  return { rowsAffected := total, perRow := counts }

/-- The database as an execution unit. -/
def unit (d : Database) : ExecutionUnit where
  prepare := d.prepare
  bind s position v := Act.ofExcept (s.bindAt position v)
  executeSingle := d.executeSingle
  executeBatch := d.executeBatch

end Database
end BoundUpdate
