import BoundUpdate.Backend.Client
import BoundUpdate.Declaration.Method
import BoundUpdate.Invocation.Context

namespace BoundUpdate

/-!
# Queries

A query holds a client or a unit and runs declared methods on it.  The unit is
built from the client when it is first needed, and so is the convention that
names accessors; both are kept.  A closed query runs nothing.  Every operation
answers the query afterwards, also when it failed.
-/

/-- A query. -/
structure Query where
  /-- The name of the query's type. -/
  typeName : String
  client : Option Client := none
  unit? : Option ExecutionUnit := none
  convention? : Option AccessorConvention := none
  closed : Bool := false

/-- What a query may be made from. -/
inductive QueryType where
  | named (name : String)
  /-- Something that is no type of queries. -/
  | foreign (v : Value)

namespace Query

/-- A query with a client or a unit. -/
def make (typeName : String) (client : Option Client) (unit : Option ExecutionUnit)
    (convention : Option AccessorConvention) : Except Failure Query :=
  if client.isNone && unit.isNone then .error (.configuration .noUnit)
  else .ok { typeName, client, unit? := unit, convention? := convention }

/-- A query of a type. -/
def ofType (type : QueryType) (client : Option Client) (unit : Option ExecutionUnit)
    (convention : Option AccessorConvention) : Except Failure Query :=
  match type with
  | .named typeName => make typeName client unit convention
  | .foreign v => .error (.configuration (.notQueryType v.shown))

/-- An outcome together with the query afterwards. -/
abbrev After (α : Type) := Query × Except Failure α

/-- The unit of a query. -/
def unit (q : Query) : Act (After ExecutionUnit) := do
  if q.closed then return (q, .error (.configuration (.closed q.typeName)))
  else
    match q.unit?, q.client with
    | some u, _ => return (q, .ok u)
    | none, none => return (q, .error (.configuration .noUnit))
    | none, some c =>
      match ← Act.attempt c.unit with
      | .ok u => return ({ q with unit? := some u }, .ok u)
      | .error failure => return (q, .error failure)

/-- The convention that names accessors. -/
def convention (q : Query) : Act (After AccessorConvention) := do
  match q.convention? with
  | some convention => return (q, .ok convention)
  | none =>
    match ← Act.attempt Settings.current with
    | .ok held =>
      let convention := held.settings.convention
      return ({ q with convention? := some convention }, .ok convention)
    | .error failure => return (q, .error failure)

/-- Run a declared update on the unit of a query. -/
def run (q : Query) (spec : Spec) (arguments : List Value) : Act (After Value) := do
  match ← q.unit with
  | (q, .error failure) => return (q, .error failure)
  | (q, .ok u) =>
    match ← q.convention with
    | (q, .error failure) => return (q, .error failure)
    | (q, .ok convention) =>
      return (q, ← Act.attempt (Invocation.call spec convention u arguments))

/-- The name of the receiver, which a call cannot give by name. -/
def receiverName : String := "self"

/-- Call a declared method with values by position and by name. -/
def call (q : Query) (m : DeclaredMethod) (values : List Value) (named : Named) :
    Act (After Value) := do
  if Signature.isGiven named receiverName then
    return (q, .error (.elementary .wrongType
      (m.qualifiedName ++ "() got multiple values for argument 'self'")))
  else
    match m.signature.argumentsOf (.other q.typeName) values named with
    | .error failure => return (q, .error failure)
    | .ok arguments => q.run m.spec arguments

/-- Close a connection of a client; an ordinary failure of closing is only noted. -/
def closeConnection (c : Client) (connection : Connection) : Act Unit := do
  match ← Act.attempt connection.close with
  | .ok () =>
    Act.note .info .query
      ("Closed " ++ c.type.plain ++ " connection to '" ++ c.name.plain ++ "'")
  | .error failure =>
    if failure.isOrdinary then
      Act.note .warning .query ("Failed to close connection: " ++ failure.text)
    else throw failure

/-- Close a query and the connection of its client. -/
def close (q : Query) : Act (After Unit) := do
  if q.closed then return (q, .ok ())
  else
    let closed := { q with closed := true }
    match q.client with
    | none => return (closed, .ok ())
    | some c =>
      match c.connection with
      | none => return (closed, .ok ())
      | some connection => return (closed, ← Act.attempt (closeConnection c connection))

/-- Do something with a query and close it in any case; a failure of closing wins. -/
def during {α : Type} (q : Query) (x : Query → Act (After α)) : Act (After α) := do
  let (q, outcome) ← x q
  match ← q.close with
  | (q, .ok ()) => return (q, outcome)
  | (q, .error failure) => return (q, .error failure)

end Query
end BoundUpdate
