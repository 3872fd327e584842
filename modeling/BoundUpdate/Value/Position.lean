import BoundUpdate.Failure.Basic
import BoundUpdate.Number.Arithmetic
import BoundUpdate.Value.Equality

namespace BoundUpdate
namespace Value

/-!
# Values as positions

A position is told by a value.  It is compared with integers, which every
number can be and an object whose type says how, and it is moved by an integer,
which keeps the type of a number that has a fraction.  Of a comparison it
matters whether the position or the integer comes first when the value is not a
number: no comparison with it holds.
-/

/-- The failure of arithmetic with exact decimals, by the name of the condition that arose. -/
def decimalFailure (condition : String) : Failure :=
  .elementary (.other condition) ("[<class 'decimal." ++ condition ++ "'>]")

/-- The result of arithmetic with a decimal; one that signals refuses to be used. -/
def decimalResult (d : Number.Decimal) (result : Option Number.Decimal) : Except Failure Value :=
  if d.isSignaling then .error (decimalFailure "InvalidOperation")
  else
    match result with
    | some found => .ok (.decimal found)
    | Option.none => .error (decimalFailure "Overflow")

/-- A quotient that is in the same order with positions as a number is. -/
def nearbyQuotient? : Value → Option (Int × Nat)
  | .decimal d => d.nearby.ratio?
  | v => v.quotient?

/-- The order of a number relative to an integer; a value that is not a number has no place in
it, exact decimals refuse such a comparison, and so do values of other types. -/
def orderTo (v : Value) (n : Int) : Except Failure (Option Ordering) :=
  match v.nearbyQuotient?, v.infinity?, v with
  | some (num, den), _, _ => .ok (some (compare num (n * den)))
  | Option.none, some negative, _ => .ok (some (if negative then .lt else .gt))
  | Option.none, Option.none, .float _ => .ok Option.none
  | Option.none, Option.none, .decimal _ => .error (decimalFailure "InvalidOperation")
  | Option.none, Option.none, v => .error (.elementary .wrongType
      ("'<' not supported between instances of '" ++ v.qualifiedTypeName ++ "' and 'int'"))

@[simp]
theorem orderTo_int (m n : Int) : (Value.int m).orderTo n = .ok (some (compare m n)) := by
  simp [orderTo, nearbyQuotient?, quotient?, int?]

/-- Whether a value is in a relation to an integer; objects whose type has a special member for the
relation are asked. -/
def relates (v : Value) (special : String) (holds : Ordering → Bool) (n : Int) :
    Except Failure Bool :=
  match v.askWith? special 1 with
  | some told => told.map isTruthy
  | Option.none => (v.orderTo n).map fun order => order.any holds

/-- Whether a value is below an integer. -/
def isBelow (v : Value) : Int → Except Failure Bool := v.relates "__lt__" Ordering.isLT

/-- Whether a value is above an integer. -/
def isAbove (v : Value) : Int → Except Failure Bool := v.relates "__gt__" Ordering.isGT

/-- Whether a value is an integer or above it. -/
def isAtLeast (v : Value) : Int → Except Failure Bool := v.relates "__ge__" Ordering.isGE

/-- Whether a value is an integer or below it. -/
def isAtMost (v : Value) : Int → Except Failure Bool := v.relates "__le__" Ordering.isLE

/-- Whether a position is none of the first `count` ones, counted from one. -/
def isOutside (v : Value) (count : Nat) : Except Failure Bool := do
  if ← v.isBelow 1 then return true
  else v.isAbove count

/-- Whether a position is one of the first `count` ones, counted from one. -/
def isInside (v : Value) (count : Nat) : Except Failure Bool := do
  if ← v.isAtLeast 1 then v.isAtMost count
  else return false

/-- The order of two integers as the one test that each special member makes. -/
theorem isLT_compare (m n : Int) : (compare m n).isLT = decide (m < n) := by
  simp only [compare, compareOfLessAndEq]
  split <;> (try split) <;> simp_all

theorem isGT_compare (m n : Int) : (compare m n).isGT = decide (n < m) := by
  simp only [compare, compareOfLessAndEq]
  split <;> (try split) <;> simp_all <;> omega

theorem isGE_compare (m n : Int) : (compare m n).isGE = decide (n ≤ m) := by
  simp only [compare, compareOfLessAndEq]
  split <;> (try split) <;> simp_all

theorem isLE_compare (m n : Int) : (compare m n).isLE = decide (m ≤ n) := by
  simp only [compare, compareOfLessAndEq]
  split <;> (try split) <;> simp_all <;> omega

theorem relates_int (m : Int) (special : String) (holds : Ordering → Bool) (n : Int) :
    (Value.int m).relates special holds n = .ok (holds (compare m n)) := by
  simp [relates, askWith?, Except.map]

@[simp]
theorem isBelow_int (m n : Int) : (Value.int m).isBelow n = .ok (decide (m < n)) := by
  simp [isBelow, relates_int, isLT_compare]

@[simp]
theorem isAbove_int (m n : Int) : (Value.int m).isAbove n = .ok (decide (n < m)) := by
  simp [isAbove, relates_int, isGT_compare]

@[simp]
theorem isAtLeast_int (m n : Int) : (Value.int m).isAtLeast n = .ok (decide (n ≤ m)) := by
  simp [isAtLeast, relates_int, isGE_compare]

@[simp]
theorem isAtMost_int (m n : Int) : (Value.int m).isAtMost n = .ok (decide (m ≤ n)) := by
  simp [isAtMost, relates_int, isLE_compare]

/-- An integer is outside exactly when it is below one or above the count. -/
@[simp]
theorem isOutside_int (n : Int) (count : Nat) :
    (Value.int n).isOutside count = .ok (decide (n < 1 ∨ (count : Int) < n)) := by
  by_cases h : n < 1 <;> simp [isOutside, h, bind, Except.bind, pure, Except.pure]

/-- An integer is inside exactly when it is at least one and at most the count. -/
@[simp]
theorem isInside_int (n : Int) (count : Nat) :
    (Value.int n).isInside count = .ok (decide (1 ≤ n ∧ n ≤ (count : Int))) := by
  by_cases h : 1 ≤ n <;> simp [isInside, h, bind, Except.bind, pure, Except.pure]

/-- The failure of an operation with an integer that a value does not take part in. -/
def misfit (v : Value) (sign : String) : Failure :=
  .elementary .wrongType
    ("unsupported operand type(s) for " ++ sign ++ ": '" ++ v.qualifiedTypeName ++ "' and 'int'")

/-- The failure of adding an integer to a value that does not take one. -/
def notAddable (v : Value) : Failure :=
  let joined := fun (name : String) => Failure.elementary .wrongType
    ("can only concatenate " ++ name ++ " (not \"int\") to " ++ name)
  match v.text?, v with
  | some _, _ => joined "str"
  | Option.none, .list _ => joined "list"
  | Option.none, .tuple _ => joined "tuple"
  | Option.none, .record .. => joined "tuple"
  | Option.none, .bytes _ => .elementary .wrongType "can't concat int to bytes"
  | Option.none, v => v.misfit "+"

/-- A value moved by an integer; `other` is the outcome for a value that is not a number. -/
def movedBy (v : Value) (n : Int) (other : Except Failure Value) : Except Failure Value :=
  match v.int?, v with
  | some m, _ => .ok (.int (m + n))
  | Option.none, .float x => .ok (.float (x.add (.ofInt n)))
  | Option.none, .decimal d => decimalResult d (d.plus? n)
  | Option.none, _ => other

/-- A value moved up by an integer. -/
def plus (v : Value) (n : Int) : Except Failure Value :=
  v.movedBy n ((v.askWith? "__add__" 1).getD (.error v.notAddable))

/-- A value moved down by an integer. -/
def minus (v : Value) (n : Int) : Except Failure Value :=
  v.movedBy (-n) ((v.askWith? "__sub__" 1).getD (.error (v.misfit "-")))

@[simp]
theorem plus_int (m n : Int) : (Value.int m).plus n = .ok (.int (m + n)) := rfl

@[simp]
theorem minus_int (m n : Int) : (Value.int m).minus n = .ok (.int (m - n)) := by
  rw [Int.sub_eq_add_neg]
  rfl

end Value
end BoundUpdate
