import BoundUpdate.Failure.Basic
import BoundUpdate.Value.Equality

namespace BoundUpdate
namespace Value

/-!
# Values as dictionaries

A dictionary or mapping is taken as it is.  Any other value is run through, and
every item must be a pair of a key and a value; of pairs with equal keys the
first key and the last value remain.
-/

/-- The failure of running through a value that has no items. -/
def notIterable (v : Value) : Failure :=
  .elementary .wrongType ("'" ++ v.qualifiedTypeName ++ "' object is not iterable")

/-- The items of an object whose type says how to run through it.  Only a type that ends the run
at once can be run through; one that answers every time never comes to an end. -/
def objectItems (v : Value) : Except Failure (List Value) :=
  match v.ask? "__iter__" with
  | some (.error failure) => .error failure
  | some (.ok runner) =>
    match runner.items?, runner.ask? "__next__" with
    | Option.none, some (.error failure) => .error failure
    | _, _ => .error (.elementary .wrongType
        ("iter() returned non-iterator of type '" ++ runner.typeName ++ "'"))
  | Option.none => .error (notIterable v)

/-- All items of a value, or the failure of running through it. -/
def toItems (v : Value) : Except Failure (List Value) :=
  match v.items? with
  | some items => .ok items
  | Option.none =>
    match v.ask? "__iter__", v.askWith? "__getitem__" 1 with
    | Option.none, some (.error failure) =>
      if failure.kind = .outOfRange then .ok [] else .error failure
    | _, _ => objectItems v

/-- The pair that an item is; `position` counts the items before it. -/
def pairOf (position : Nat) (v : Value) : Except Failure (Value × Value) :=
  match v.items? with
  | Option.none => .error (.elementary .wrongType
      ("cannot convert dictionary update sequence element #" ++ Number.natText position ++
        " to a sequence"))
  | some [k, x] => k.asKey.map fun k => (k, x)
  | some items => .error (.elementary .invalidValue
      ("dictionary update sequence element #" ++ Number.natText position ++ " has length " ++
        Number.natText items.length ++ "; 2 is required"))

/-- The pairs that items are. -/
def pairsOf (position : Nat) : List Value → Except Failure Entries
  | [] => .ok []
  | v :: rest => do
    let pair ← pairOf position v
    let others ← pairsOf (position + 1) rest
    return pair :: others

/-- The entries of a value that is taken as a dictionary. -/
def toEntries (v : Value) : Except Failure Entries :=
  match v.entries? with
  | some entries => .ok entries
  | Option.none => do
    let items ← v.toItems
    return Entries.merge [] (← pairsOf 0 items)

@[simp]
theorem toEntries_dict (entries : Entries) : (Value.dict entries).toEntries = .ok entries := rfl

/-- The value stored under a name; nothing when there is none. -/
def Entries.getD (entries : Entries) (name : String) (absent : Value) : Value :=
  (entries.get? name).getD absent

end Value
end BoundUpdate
