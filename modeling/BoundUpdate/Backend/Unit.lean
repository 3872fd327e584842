import BoundUpdate.Activity.Basic
import BoundUpdate.Value.Dictionary
import BoundUpdate.Value.Display
import BoundUpdate.Value.Position

namespace BoundUpdate

/-!
# Execution units

An execution unit is the part that talks to a database.  It prepares a
statement from a template, binds values to the slots of the statement, and
executes it once or for every one of several parameter lists.
-/

/-- What executing a statement reports. -/
structure UnitResult where
  rowsAffected : Int := 0
  /-- The number of affected rows for every execution. -/
  perRow : List Int := []
  /-- The rows of generated keys. -/
  keys : List Value := []

/-- A statement that is ready to be executed. -/
structure Statement where
  template : Template
  sql : String
  keys : KeyRequest := .none
  keyColumns : List Value := []
  /-- Whether the statement itself returns the keys. -/
  returning : Bool := false
  /-- The values bound so far, one for each slot once any is bound. -/
  parameters : List Value := []

/-- A unit: its four operations. -/
structure ExecutionUnit where
  /-- Prepare a statement. -/
  prepare : Template → KeyRequest → List Value → Act Statement
  /-- Bind a value at a position of a statement. -/
  bind : Statement → Value → Value → Act Statement
  /-- Execute a statement once, with the values bound to it. -/
  executeSingle : Statement → Act UnitResult
  /-- Execute a statement for every one of the parameter lists that a value holds. -/
  executeBatch : Statement → Value → Act UnitResult

namespace Statement

/-- Whether the statement was prepared for generated keys. -/
def wantsKeys (s : Statement) : Bool := s.keys != .none

/-- The number of slots. -/
def slots (s : Statement) : Nat := s.template.placeholders.length

/-- The parameters filled up with nothing to one for every slot. -/
def filled (s : Statement) : List Value :=
  s.parameters ++ List.replicate (s.slots - s.parameters.length) .none

/-- The failure of binding at a position that is none of the slots'. -/
def noSlot (s : Statement) (position : Value) : Failure :=
  .raised .outOfRange
    ("Bind position " ++ position.plain ++ " out of range 1.." ++ Number.natText s.slots)

/-- The parameters with a value at a place, counted from zero. -/
def fillAt (s : Statement) (place v : Value) : Except Failure Statement :=
  match place.int? with
  | some n => .ok { s with parameters := s.filled.set n.toNat v }
  | none => .error (.elementary .wrongType
      ("list indices must be integers or slices, not " ++ place.typeName))

/-- Bind a value at a position, counted from one; positions beyond the slots are refused. -/
def bindAt (s : Statement) (position v : Value) : Except Failure Statement := do
  if ← position.isOutside s.slots then throw (s.noSlot position)
  else s.fillAt (← position.minus 1) v

/-- The statement that a refused position leaves: its parameters are filled up once the position
turned out not to be beyond the slots. -/
def afterRefusal (s : Statement) (position : Value) : Statement :=
  match position.isOutside s.slots with
  | .ok false => { s with parameters := s.filled }
  | _ => s

theorem bindAt_int (s : Statement) (n : Int) (v : Value) :
    s.bindAt (.int n) v =
      if n < 1 ∨ (s.slots : Int) < n then .error (s.noSlot (.int n))
      else .ok { s with parameters := s.filled.set (n - 1).toNat v } := by
  by_cases h : n < 1 ∨ (s.slots : Int) < n <;>
    simp [bindAt, fillAt, h, bind, Except.bind, Value.int?, throw,
      throwThe, MonadExceptOf.throw]

@[simp]
theorem fillAt_slots {s t : Statement} {place v : Value} (h : s.fillAt place v = .ok t) :
    t.slots = s.slots := by
  unfold fillAt at h
  split at h
  · cases h
    rfl
  · cases h

end Statement

namespace ExecutionUnit

/-- The failure of an operation that a unit does not provide. -/
def notProvided {α : Type} : Act α := throw (.raised .notImplemented "")

/-- A unit that provides binding only. -/
def abstract : ExecutionUnit where
  prepare _ _ _ := notProvided
  bind s position v := Act.ofExcept (s.bindAt position v)
  executeSingle _ := notProvided
  executeBatch _ _ := notProvided

/-- The parameter lists that the items of a value are. -/
def parameterLists (sets : Value) : Except Failure (List (List Value)) := do
  (← sets.toItems).mapM Value.toItems

/-- A unit that makes every operation observable before it is done. -/
def observed (u : ExecutionUnit) : ExecutionUnit where
  prepare t keys columns := do
    Act.observe (.prepare t.source keys columns)
    u.prepare t keys columns
  bind s position v := do
    Act.observe (.bind position v)
    u.bind s position v
  executeSingle s := do
    Act.observe (.executeSingle s.parameters)
    u.executeSingle s
  executeBatch s sets := do
    Act.observe (.executeBatch (← Act.ofExcept (parameterLists sets)))
    u.executeBatch s sets

end ExecutionUnit
end BoundUpdate
