import BoundUpdate.Failure.Basic
import BoundUpdate.Value.Display
import BoundUpdate.Value.Equality

namespace BoundUpdate

/-!
# Modes of an update

An update says which generated keys it wants and what a call of it returns.
Both are chosen by words.
-/

/-- Which generated keys an update returns. -/
inductive KeyRequest where
  | none
  /-- The first column of every key row. -/
  | firstColumn
  /-- The columns that the driver reports. -/
  | driverDefined
  /-- The columns that the declaration names. -/
  | columns
  deriving DecidableEq, Repr

/-- What a call of an update returns. -/
inductive ReturnShape where
  /-- The number of affected rows. -/
  | count
  /-- The number of affected rows for every row of a batch. -/
  | counts
  /-- Nothing. -/
  | void
  /-- One generated key. -/
  | key
  /-- All generated keys. -/
  | keys
  deriving DecidableEq, Repr

/-- The failure of choosing a mode by a value that is not one of its words. -/
def unknownWord (mode : String) (v : Value) : Failure :=
  v.failShowing fun text => .raised .invalidValue (text ++ " is not a valid " ++ mode)

/-- Whether a value can be looked up among keys; an object's type may refuse that. -/
def isKey (v : Value) : Except Failure Bool :=
  match v.keyFault? with
  | none => .ok true
  | some failure =>
    if failure.kind = .wrongType then .ok false
    else if failure.kind = .missingKey then .ok true
    else .error failure

/-- What a value chooses by one of some words.  An object that cannot be a key is asked whether it
equals the words, and answers the same to every one. -/
def chosenBy {α : Type} (mode : String) (all : List α) (word : α → String) (v : Value) :
    Except Failure α :=
  match all.find? fun a => v.text? == some (word a) with
  | some a => .ok a
  | none => do
    if ← isKey v then throw (unknownWord mode v)
    else
      match v.askWith? "__eq__" 1, all with
      | some told, first :: _ =>
        if ← (← told).truth then return first else throw (unknownWord mode v)
      | _, _ => throw (unknownWord mode v)

namespace KeyRequest

/-- The word that chooses a request. -/
def word : KeyRequest → String
  | .none => "no_keys_returned"
  | .firstColumn => "returned_keys_first_column"
  | .driverDefined => "returned_keys_driver_defined"
  | .columns => "returned_keys_columns_specified"

/-- All requests. -/
def all : List KeyRequest := [.none, .firstColumn, .driverDefined, .columns]

/-- The request that a value chooses. -/
def ofValue (v : Value) : Except Failure KeyRequest := chosenBy "GeneratedKeys" all word v

@[simp]
theorem ofValue_word (request : KeyRequest) :
    ofValue (.text request.word) = .ok request := by
  cases request <;> rfl

end KeyRequest

namespace ReturnShape

/-- The word that chooses a shape. -/
def word : ReturnShape → String
  | .count => "count"
  | .counts => "counts"
  | .void => "void"
  | .key => "key"
  | .keys => "keys"

/-- All shapes. -/
def all : List ReturnShape := [.count, .counts, .void, .key, .keys]

/-- The shape that a value chooses. -/
def ofValue (v : Value) : Except Failure ReturnShape := chosenBy "ReturnShape" all word v

@[simp]
theorem ofValue_word (shape : ReturnShape) : ofValue (.text shape.word) = .ok shape := by
  cases shape <;> rfl

end ReturnShape
end BoundUpdate
