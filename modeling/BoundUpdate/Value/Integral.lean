import BoundUpdate.Number.IntegerText
import BoundUpdate.Value.Display

namespace BoundUpdate
namespace Value

/-!
# Integral values

An integer is taken from any value that has one: a number without its fraction,
a text or bytes that spell one, an object whose type tells one.  A member of an
integral or textual enumeration is made from such a value.
-/

/-- The failure of a text that spells no integer. -/
def notInteger : Failure := .elementary .invalidValue "invalid literal for int() with base 10"

/-- The integer that a text spells. -/
def integerOfText (s : List Char) : Except Failure Int :=
  (Number.readInteger s).mapError fun _ => notInteger

/-- The special members that tell an object's integer; the first one that the type has counts. -/
def integerMembers : List String := ["__int__", "__index__", "__trunc__"]

/-- The integer that an object's type tells. -/
def objectInteger (v : Value) : Except Failure Int :=
  match integerMembers.findSome? fun special => (v.ask? special).map (special, ·) with
  | some (_, .error failure) => .error failure
  | some (special, .ok answer) =>
    match answer.int? with
    | some n => .ok n
    | Option.none => .error (.elementary .wrongType
        (special ++ " returned non-int (type " ++ answer.typeName ++ ")"))
  | Option.none => .error (.elementary .wrongType
      ("int() argument must be a string, a bytes-like object or a real number, not '" ++
        v.typeName ++ "'"))

/-- The integral value of a value. -/
def integral (v : Value) : Except Failure Int :=
  match v with
  | .float .nan => .error (.elementary .invalidValue "cannot convert float NaN to integer")
  | .float x =>
    match x.truncate? with
    | some n => .ok n
    | Option.none => .error (.elementary .overflow "cannot convert float infinity to integer")
  | .decimal (.infinity _) => .error (.elementary .overflow "cannot convert Infinity to integer")
  | .decimal d =>
    match d.truncate? with
    | some n => .ok n
    | Option.none => .error (.elementary .invalidValue "cannot convert NaN to integer")
  | .bytes bs =>
    if bs.all fun b => b.toNat < 128 then integerOfText (bs.map fun b => Char.ofNat b.toNat)
    else .error notInteger
  | v =>
    match v.int?, v.text? with
    | some n, _ => .ok n
    | Option.none, some s => integerOfText s.toList
    | Option.none, Option.none => objectInteger v

/-- The value of a member of an enumeration that is declared with a value: a textual enumeration
keeps its text, an integral one its integer; a tuple of one item stands for the item. -/
def enumValue (base : EnumBase) (declared : Value) : Value :=
  let operand := match declared with
    | .tuple [v] => v
    | v => v
  match base with
  | .plain => declared
  | .text => .text operand.plain
  | .integer => (operand.integral.map Value.int).toOption.getD declared

end Value
end BoundUpdate
