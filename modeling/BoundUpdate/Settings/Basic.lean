import BoundUpdate.Lookup.Accessor
import BoundUpdate.Value.Dictionary

namespace BoundUpdate

/-!
# Settings

Settings name the databases, tell how accessors are named and whether bound
values may be logged.  The parts of a database entry come from files and
addresses as they are, so they are dynamic values.
-/

/-- A database. -/
structure DatabaseEntry where
  type : Value
  /-- The address the other parts were taken from. -/
  dsn : Value := .none
  host : Value := .none
  user : Value := .none
  password : Value := .none
  port : Value := .none
  database : Value := .none
  options : Value := .dict []

/-- The settings in force. -/
structure Settings where
  /-- The databases by name, in order. -/
  databases : List (Value × DatabaseEntry) := []
  /-- The name of the database that is meant when none is named. -/
  defaultDatabase : Value := .none
  /-- Seconds to wait for a connection. -/
  connectTimeout : Value := .int 40
  /-- The words that the names of accessors start with. -/
  accessorPrefixes : List String := AccessorConvention.standard.prefixes
  /-- Counts as true when accessors are looked for in snake case, too. -/
  accessorSnakeCase : Value := .bool AccessorConvention.standard.snakeCase
  /-- Counts as true when bound values may be noted. -/
  logsBoundValues : Value := .bool false

namespace Settings

/-- Name a database: a name that is given again keeps its place. -/
def withDatabase (named : List (Value × DatabaseEntry)) (name : Value) (e : DatabaseEntry) :
    List (Value × DatabaseEntry) :=
  match named with
  | [] => [(name, e)]
  | (n, other) :: rest =>
    if n.sameKey name then (n, e) :: rest else (n, other) :: withDatabase rest name e

/-- The databases that some pairs name. -/
def named (pairs : List (Value × DatabaseEntry)) : Except Failure (List (Value × DatabaseEntry)) :=
  match pairs.findSome? fun (name, _) => name.keyFault? with
  | some failure => .error failure
  | none => .ok (pairs.foldl (fun found (name, e) => withDatabase found name e) [])

/-- The convention that the settings tell. -/
def convention (s : Settings) : AccessorConvention :=
  { prefixes := s.accessorPrefixes, snakeCase := s.accessorSnakeCase.isTruthy }

end Settings

end BoundUpdate
