import BoundUpdate.Lookup.Entries

namespace BoundUpdate
namespace Batch

/-!
# Shape of batch arguments

The arguments of a batch are columns: lists or tuples of one length.  Its rows
hold the items of all columns at one place.  An object that tells that it is a
list or a tuple is a column, too: it is asked for its length at first, and for
an item when the row of this item is read.
-/

/-- The failure of arguments that are no columns of one length. -/
def refused {α : Type} (fault : BatchFault) : Probe α := throw (.batchShape fault)

/-- The items of an argument, if it is a column; each is read on its own. -/
def column? (v : Value) : Probe (Option (List (Probe Value))) :=
  match v.sequence? with
  | some items => pure (some (items.map pure))
  | none => do
    if ← Lookup.tellsSequence v then
      let n ← Probe.ofExcept v.count
      return some ((List.range n).map fun (i : Nat) => Lookup.itemOf v (.int i))
    else return none

/-- The columns that arguments are; the first argument has the given position. -/
def columnsFrom (position : Nat) : List Value → Probe (List (List (Probe Value)))
  | [] => pure []
  | v :: rest => do
    match ← column? v with
    | none => refused (.notSequence position v.typeName)
    | some column => return column :: (← columnsFrom (position + 1) rest)

/-- The common length of columns. -/
def commonLength : List Nat → Except BatchFault Nat
  | [] => .error .noArguments
  | n :: lengths => if lengths.all (· == n) then .ok n else .error (.differing (n :: lengths))

/-- The columns of batch arguments and their common length. -/
def columns (arguments : List Value) : Probe (Nat × List (List (Probe Value))) := do
  let found ← columnsFrom 1 arguments
  match commonLength (found.map List.length) with
  | .ok n => return (n, found)
  | .error fault => refused fault

/-- The common length of batch arguments. -/
def length (arguments : List Value) : Probe Nat := do return (← columns arguments).1

/-- The common length of the batch arguments that a value holds: none when it counts as false.  A
value that counts as true and has no items has no first length. -/
def lengthOf (v : Value) : Probe Nat := do
  if ← Probe.ofExcept v.truth then
    match ← Probe.ofExcept v.toItems with
    | [] => throw (.elementary .outOfRange "list index out of range")
    | arguments => length arguments
  else refused .noArguments

/-- The rows of some columns, `n` of them. -/
def rows {α : Type} : (n : Nat) → List (List α) → List (List α)
  | 0, _ => []
  | n + 1, columns =>
    columns.filterMap List.head? :: rows n (columns.map List.tail)

@[simp]
theorem rows_length {α : Type} (n : Nat) (columns : List (List α)) :
    (rows n columns).length = n := by
  induction n generalizing columns with
  | zero => rfl
  | succ n ih => simp [rows, ih]

/-- The items of a row, which are read one after another. -/
def readRow : List (Probe Value) → Probe (List Value)
  | [] => pure []
  | item :: rest => do
    let v ← item
    return v :: (← readRow rest)

end Batch
end BoundUpdate
