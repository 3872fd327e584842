import BoundUpdate.Annotation.Arithmetic
import BoundUpdate.Calendar.Reckoning
import BoundUpdate.Number.Decimal.Operations
import BoundUpdate.Sorting
import BoundUpdate.Value.Language
import BoundUpdate.Value.Position

namespace BoundUpdate
namespace Value

/-!
# The order of values

Numbers are in order by their values, texts by their characters, days and
moments by time, and sets by inclusion.  Lists are compared at the first place
where they differ.  Values of other types, and of two types that have no order
in common, refuse to be compared.
-/

/-- A number as a decimal. -/
def asDecimal? : Value → Option Number.Decimal
  | .decimal d => some d
  | .float x => some (.ofBinary64 x)
  | v => v.int?.map Number.Decimal.ofInt

/-- Whether a value is a decimal. -/
def isDecimal : Value → Bool
  | .decimal _ => true
  | _ => false

/-- Whether one number is below another.  A NaN is not, and decimals refuse it. -/
def isLessNumber? (a b : Value) : Option (Except Failure Bool) := do
  let d ← a.asDecimal?
  let e ← b.asDecimal?
  match d.order? e with
  | some order => return .ok order.isLT
  | Option.none =>
    if a.isDecimal || b.isDecimal then return .error (decimalFailure "InvalidOperation")
    else return .ok false

/-- Whether one value of the calendar is before another. -/
def isEarlier? : Value → Value → Option (Except Failure Bool)
  | .day x, .day y => some (.ok (decide (x.number < y.number)))
  | .span x, .span y => some (.ok (decide (x < y)))
  | .moment x, .moment y =>
    if x.offset.isSome == y.offset.isSome then
      some (.ok (decide ((x.localTime : Int) - x.offset.getD 0 < y.localTime - y.offset.getD 0)))
    else some (.error (.elementary .wrongType
      "can't compare offset-naive and offset-aware datetimes"))
  | .day _, .moment _ => some (.error mixed)
  | .moment _, .day _ => some (.error mixed)
  | _, _ => Option.none
where
  /-- The failure of comparing a day with a moment. -/
  mixed : Failure := .elementary .wrongType "can't compare datetime.datetime to datetime.date"

mutual

/-- Whether two values are equal. -/
def same : Value → Value → Bool
  | .list xs, .list ys => sameItems xs ys
  | .tuple xs, .tuple ys => sameItems xs ys
  | .record _ xs, .record _ ys => sameItems xs ys
  | .record _ xs, .tuple ys => sameItems xs ys
  | .tuple xs, .record _ ys => sameItems xs ys
  | .dict xs, .dict ys => xs.length == ys.length && sameEntries xs ys
  | .mapping xs, .mapping ys => xs.length == ys.length && sameEntries xs ys
  | .mapping xs, .dict ys => xs.length == ys.length && sameEntries xs ys
  | .dict xs, .mapping ys => xs.length == ys.length && sameEntries xs ys
  | .set xs, .set ys => xs.length == ys.length && xs.all fun x => ys.any (sameKey x)
  | .object b fields, w => equalByType (.object b fields) w
  | v, .object b fields => equalByType (.object b fields) v
  | a, b => a.sameKey b
where
  /-- Whether an object equals a value, which its type may say. -/
  equalByType (v w : Value) : Bool :=
    match v.askWith? "__eq__" 1, w.askWith? "__eq__" 1 with
    | some (.ok told), _ => told.isTruthy
    | Option.none, some (.ok told) => told.isTruthy
    | _, _ => false

/-- Whether two lists are equal item by item. -/
def sameItems : List Value → List Value → Bool
  | [], [] => true
  | x :: xs, y :: ys => same x y && sameItems xs ys
  | _, _ => false

/-- Whether the values of entries are also under their keys in others. -/
def sameEntries : List (Value × Value) → List (Value × Value) → Bool
  | [], _ => true
  | (k, v) :: rest, others =>
    (match Entries.find? others k with
      | some w => same v w
      | Option.none => false) && sameEntries rest others

end

/-- The failure of asking for an order that two values do not have. -/
def notOrdered (a b : Value) : Failure :=
  .elementary .wrongType ("'<' not supported between instances of '" ++ a.qualifiedTypeName ++
    "' and '" ++ b.qualifiedTypeName ++ "'")

/-- Whether one value that is not a list is below another. -/
def isLessAtom (a b : Value) : Except Failure Bool :=
  match a, b with
  | .bytes x, .bytes y => .ok (decide (x < y))
  | .set xs, .set ys => .ok (decide (xs.length < ys.length) && xs.all fun x => ys.any (sameKey x))
  | .meaning m, v => Annotation.Meaning.ordered .less m v.toMeaning
  | v, .meaning m => Annotation.Meaning.ordered .less v.toMeaning m
  | a, b =>
    match a.askWith? "__lt__" 1, b.askWith? "__gt__" 1, a.text?, b.text? with
    | some told, _, _, _ => told.map isTruthy
    | Option.none, some told, _, _ => told.map isTruthy
    | _, _, some s, some t => .ok (decide (s < t))
    | _, _, _, _ => (isLessNumber? a b <|> isEarlier? a b).getD (.error (notOrdered a b))

mutual

/-- Whether one value is below another. -/
def isLess : Value → Value → Except Failure Bool
  | .list xs, .list ys => isLessIn xs ys
  | .tuple xs, .tuple ys => isLessIn xs ys
  | .record _ xs, .record _ ys => isLessIn xs ys
  | .record _ xs, .tuple ys => isLessIn xs ys
  | .tuple xs, .record _ ys => isLessIn xs ys
  | a, b => isLessAtom a b

/-- Whether one list is below another: at the first place where they differ, or by its end. -/
def isLessIn : List Value → List Value → Except Failure Bool
  | [], ys => .ok !ys.isEmpty
  | _ :: _, [] => .ok false
  | x :: xs, y :: ys => if same x y then isLessIn xs ys else isLess x y

end

/-- Values in order; those of which none is below the other keep their order. -/
def inOrder (items : List Value) : Except Failure (List Value) := Sorting.sorted isLess items

end Value
end BoundUpdate
