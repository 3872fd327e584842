import BoundUpdate.Lookup.Entries
import BoundUpdate.Lookup.Path
import BoundUpdate.Value.Display
import BoundUpdate.Value.Position

namespace BoundUpdate

/-!
# References to arguments

A reference names an argument by a value that is compared with numbers, and a
path of members.  The reference of a placeholder has an integer; any other
number refers to no argument, and other values cannot be compared.
-/

/-- A reference to an argument, counted from one, and a path of members. -/
structure ArgumentReference where
  index : Value
  path : List String := []

namespace ArgumentReference

/-- A source form of the reference: braces are used when there is a path. -/
def describe (r : ArgumentReference) : String :=
  if r.path.isEmpty then "?" ++ r.index.plain
  else "?\x7b" ++ String.intercalate "." (r.index.plain :: r.path) ++ "\x7d"

/-- The reference of a placeholder. -/
def ofPlaceholder (p : Placeholder) : ArgumentReference := { index := .int p.index, path := p.path }

@[simp]
theorem describe_ofPlaceholder (p : Placeholder) : (ofPlaceholder p).describe = p.describe := by
  simp [describe, ofPlaceholder, Placeholder.describe, Value.plain, Value.shown]

/-- The number of arguments that a value holds. -/
def countOf (arguments : Value) : Probe Nat :=
  match Lookup.askSpecial? arguments "__len__" [] with
  | some told => do Probe.ofExcept (← told).asCount
  | none => Probe.ofExcept arguments.count

@[simp]
theorem countOf_list (items : List Value) :
    countOf (.list items) = Probe.ofExcept (.ok items.length) := rfl

/-- The integer that a value is as a place in a row. -/
def placeOf (place : Value) : Probe Int :=
  match place.int?, Lookup.askSpecial? place "__index__" [] with
  | some n, _ => pure n
  | none, some told => do
    match (← told).int? with
    | some n => return n
    | none => throw (.elementary .wrongType "__index__ returned non-int")
  | none, none => throw (.elementary .wrongType
      ("indices must be integers or slices, not " ++ place.typeName))

/-- The item of a row at a place, counted from zero, or from the end when it is negative. -/
def itemInRow (items : List Value) (n : Int) : Except Failure Value :=
  let place := if n < 0 then n + items.length else n
  match if place < 0 then none else items[place.toNat]? with
  | some v => .ok v
  | none => .error (.elementary .outOfRange "index out of range")

/-- The item of arguments at a place, counted from zero. -/
def itemAt (arguments place : Value) : Probe Value :=
  match arguments.entries?, arguments with
  | some entries, _ => Probe.ofExcept do
    match Value.Entries.find? entries (← place.asKey) with
    | some v => .ok v
    | none => .error (.elementary .missingKey place.shown)
  | none, .set _ => throw (Lookup.notApplicable arguments)
  | none, arguments =>
    match arguments.items? with
    | some items => do Probe.ofExcept (itemInRow items (← placeOf place))
    | none => Lookup.itemOf arguments place

@[simp]
theorem itemAt_list (items : List Value) (n : Int) :
    itemAt (.list items) (.int n) = Probe.ofExcept (itemInRow items n) := rfl

/-- The failure of a reference to an argument that is not among those given. -/
def missing (r : ArgumentReference) (given : Nat) : Failure :=
  .binding (.argumentMissing r.describe r.index.plain given)

/-- The argument of a reference. -/
def argument (r : ArgumentReference) (arguments : Value) : Probe Value := do
  if ← Probe.ofExcept (r.index.isBelow 1) then throw (r.missing (← countOf arguments))
  else if ← Probe.ofExcept (r.index.isAbove (← countOf arguments)) then
    throw (r.missing (← countOf arguments))
  else itemAt arguments (← Probe.ofExcept (r.index.minus 1))

/-- In a list of arguments, an integer refers to the argument that it counts to. -/
theorem argument_list (p : Placeholder) (arguments : List Value) :
    (ofPlaceholder p).argument (.list arguments) =
      Probe.ofExcept (match Lookup.argument? p arguments with
        | some v => .ok v
        | none => .error ((ofPlaceholder p).missing arguments.length)) := by
  by_cases low : p.index < 1
  · simp [argument, ofPlaceholder, Lookup.argument?, low]
  · by_cases high : (arguments.length : Int) < p.index
    · have beyond : arguments.length ≤ p.index.toNat - 1 := by omega
      simp [argument, ofPlaceholder, Lookup.argument?, low, high, List.getElem?_eq_none beyond]
    · have inside : p.index.toNat - 1 < arguments.length := by omega
      have above : ¬ p.index - 1 < 0 := by omega
      simp [argument, ofPlaceholder, Lookup.argument?, low, high, itemInRow, above,
        List.getElem?_eq_getElem inside]

/-- The value that a reference denotes. -/
def resolve (convention : AccessorConvention) (r : ArgumentReference) (arguments : Value) :
    Act Value := do
  let v ← Act.probe (r.argument arguments)
  Lookup.follow convention r.describe v r.path

/-- In a list of arguments, a placeholder's reference denotes what the placeholder does. -/
theorem resolve_list (convention : AccessorConvention) (p : Placeholder)
    (arguments : List Value) :
    (ofPlaceholder p).resolve convention (.list arguments) =
      Lookup.resolve convention p arguments := by
  unfold resolve Lookup.resolve
  rw [argument_list]
  cases Lookup.argument? p arguments with
  | none => rfl
  | some v => rw [describe_ofPlaceholder]; rfl

end ArgumentReference
end BoundUpdate
