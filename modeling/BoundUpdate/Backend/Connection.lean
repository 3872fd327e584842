import BoundUpdate.Activity.Basic

namespace BoundUpdate

/-!
# Connections

A connection answers the statements sent to it in order.  What it answers is a
script: the reply to each statement, and the failures of opening a cursor, of
connecting, of closing and of the calls made on a new connection.  Every
operation on a connection is observable.
-/

/-- The reply to one statement. -/
structure Reply where
  failure : Option Failure := none
  /-- The number of affected rows, if it is known. -/
  rowCount : Option Int := some 1
  /-- The last generated key, if the driver tells one. -/
  lastKey : Option Value := none
  /-- The rows that the statement returns, if it returns rows. -/
  rows : Option (List Value) := none
  /-- The failure of fetching the rows. -/
  fetchFailure : Option Failure := none

/-- A connection. -/
structure Connection where
  serial : Nat := 0
  /-- The replies in order; the last one is repeated. -/
  script : List Reply := [{}]
  cursorFailure : Option Failure := none
  connectFailure : Option Failure := none
  closeFailure : Option Failure := none
  /-- The failure of setting the autocommit mode. -/
  autocommitFailure : Option Failure := none
  /-- The failure of asking a new connection about itself. -/
  identityFailure : Option Failure := none

namespace Connection

/-- Fail if there is a failure. -/
def failWith : Option Failure → Act Unit
  | some failure => throw failure
  | none => pure ()

/-- The reply to the statement with a number, counted from zero. -/
def reply (c : Connection) (n : Nat) : Reply :=
  match c.script[n]? with
  | some r => r
  | none => c.script.getLastD {}

/-- Open a cursor. -/
def openCursor (c : Connection) : Act Unit := do
  Act.observe .openCursor
  failWith c.cursorFailure

/-- The number of the next statement; it counts as sent from now on. -/
def nextNumber (c : Connection) : Act Nat := fun activity =>
  let n := activity.sent c.serial
  (.ok n, { activity with
    sent := fun other => if other = c.serial then n + 1 else activity.sent other })

/-- Send a statement with its parameters. -/
def send (c : Connection) (sql : String) (parameters : Value) : Act Reply := do
  Act.observe (.send sql parameters)
  let n ← c.nextNumber
  let r := c.reply n
  failWith r.failure
  return r

/-- Fetch the rows of the last statement. -/
def fetch (r : Reply) : Act (List Value) := do
  Act.observe .fetch
  failWith r.fetchFailure
  return r.rows.getD []

/-- Close a cursor. -/
def closeCursor : Act Unit := Act.observe .closeCursor

/-- Close the connection. -/
def close (c : Connection) : Act Unit := do
  Act.observe .closeConnection
  failWith c.closeFailure

/-- Set the autocommit mode. -/
def setAutocommit (c : Connection) (on : Bool) : Act Unit := do
  Act.observe (.setAutocommit on)
  failWith c.autocommitFailure

/-- The number of the thread that serves the connection. -/
def threadNumber (c : Connection) : Act Int := do
  failWith c.identityFailure
  return 7

/-- The status of the connection. -/
def status (c : Connection) : Act Int := do
  failWith c.identityFailure
  return 1

/-- A new connection that behaves like this one. -/
def renewed (c : Connection) : Act Connection := do
  let serial ← Act.freshSerial
  return { c with serial }

end Connection
end BoundUpdate
