import BoundUpdate.Activity.Basic
import BoundUpdate.Value.Dictionary
import BoundUpdate.Value.Display

namespace BoundUpdate

/-!
# Outcomes and what calls return

The outcome of an invocation tells about affected rows or about generated keys,
or nothing.  What a call returns is taken from the outcome by the declared
shape; a shape that the outcome cannot fill is a wrong type.
-/

/-- The outcome of an invocation. -/
inductive Outcome where
  | rows (count perRow : Value)
  /-- Rows of generated keys. -/
  | keys (keys : List Value) (count : Value)
  | void
  /-- Something that no invocation gives. -/
  | foreign (v : Value)

namespace Outcome

/-- The name of an outcome's type. -/
def typeName : Outcome → String
  | .rows .. => "RowsAffected"
  | .keys .. => "ReturnedKeys"
  | .void => "Void"
  | .foreign v => v.typeName

/-- The failure of taking a shape from an outcome that cannot fill it. -/
def unfit (shape : ReturnShape) (outcome : Outcome) : Failure :=
  .raised .wrongType ("Cannot extract " ++ shape.word ++ " from " ++ outcome.typeName)

/-- The first item of a row. -/
def firstItem (row : Value) : Except Failure Value :=
  match row.entries? with
  | some entries =>
    match Value.Entries.find? entries (.int 0) with
    | some v => .ok v
    | none => .error (.elementary .missingKey "0")
  | none =>
    match row with
    | .set _ => .error (.elementary .wrongType "'set' object is not subscriptable")
    | row =>
      match row.items? with
      | some (v :: _) => .ok v
      | some [] => .error (.elementary .outOfRange (row.typeName ++ " index out of range"))
      | none =>
        match row.askWith? "__getitem__" 1 with
        | some outcome => outcome
        | none => .error (.elementary .wrongType
            ("'" ++ row.qualifiedTypeName ++ "' object is not subscriptable"))

/-- A row as a tuple. -/
def toTuple (row : Value) : Except Failure Value := row.toItems.map Value.tuple

/-- All items of a value, as a list. -/
def toList (v : Value) : Except Failure Value := v.toItems.map Value.list

/-- Apply a function to every row, up to the first failure. -/
def eachRow (f : Value → Except Failure Value) : List Value → Except Failure (List Value)
  | [] => .ok []
  | row :: rest => do
    let v ← f row
    let others ← eachRow f rest
    return v :: others

/-- The key that a call returns. -/
def extractKey : List Value → Act Value
  | [] => do
    Act.note .warning .extraction "No generated keys were returned"
    return .none
  | row :: _ => Act.ofExcept (firstItem row)

/-- The keys that a call returns: rows as tuples, or their first items. -/
def extractKeys (firstColumn : Bool) (found : List Value) : Except Failure Value :=
  (eachRow (if firstColumn then firstItem else toTuple) found).map Value.list

/-- What a call returns. -/
def extract (outcome : Outcome) (shape : ReturnShape) (keys : KeyRequest) : Act Value :=
  match shape, outcome with
  | .void, _ => pure .none
  | .count, .rows count _ => pure count
  | .counts, .rows _ perRow => Act.ofExcept (toList perRow)
  | .key, .void => pure .none
  | .keys, .void => pure (.list [])
  | .key, .keys found _ => extractKey found
  | .keys, .keys found _ => Act.ofExcept (extractKeys (keys == .firstColumn) found)
  | shape, outcome => throw (unfit shape outcome)

end Outcome
end BoundUpdate
