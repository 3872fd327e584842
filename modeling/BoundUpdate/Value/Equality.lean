import BoundUpdate.Value.Basic
import BoundUpdate.Number.Places

namespace BoundUpdate
namespace Value

/-!
# Keys

Dictionary keys are equal when their values are: a number equals every number
of the same value, whatever its type, and a member of a textual enumeration
equals its text.  Only values that cannot change may be keys.
-/

/-- The exact value of a number as a quotient; exact decimals beyond the reach of all other numbers
have none. -/
def quotient? : Value → Option (Int × Nat)
  | .float (.finite negative m e) =>
    let (n, d) := Number.Binary64.ratio m e
    some (if negative then -(n : Int) else n, d)
  | .decimal d => if d.isRemote then Option.none else if d.isZero then some (0, 1) else d.ratio?
  | v => v.int?.map fun n => (n, 1)

/-- Whether a number is infinite, and if so whether it is negative. -/
def infinity? : Value → Option Bool
  | .float (.infinity negative) => some negative
  | .decimal (.infinity negative) => some negative
  | _ => Option.none

/-- Whether two numbers have one value. -/
def sameNumber (a b : Value) : Bool :=
  match a, b, a.quotient?, b.quotient? with
  | .decimal (.finite n c e), .decimal (.finite n' c' e'), _, _ =>
    Number.Decimal.sameValue (.finite n c e) (.finite n' c' e')
  | _, _, some (n, d), some (m, e) => n * e == m * d
  | _, _, Option.none, Option.none => a.infinity?.isSome && a.infinity? == b.infinity?
  | _, _, _, _ => false

mutual

/-- Whether two keys are equal. -/
def sameKey (a b : Value) : Bool :=
  match a, b with
  | .none, .none => true
  | .bytes x, .bytes y => x == y
  | .day x, .day y => x == y
  | .moment x, .moment y => x.sameInstant y
  | .lengthFunction, .lengthFunction => true
  | .tuple xs, .tuple ys => sameKeys xs ys
  | .record _ xs, .record _ ys => sameKeys xs ys
  | .record _ xs, .tuple ys => sameKeys xs ys
  | .tuple xs, .record _ ys => sameKeys xs ys
  | .span x, .span y => x == y
  | .zone x, .zone y => x == y
  | a, b =>
    match a.text?, b.text? with
    | some s, some t => s == t
    | _, _ => sameNumber a b

/-- Whether two lists of keys are equal item by item. -/
def sameKeys : List Value → List Value → Bool
  | [], [] => true
  | x :: xs, y :: ys => sameKey x y && sameKeys xs ys
  | _, _ => false

end

/-- The failure of a key that may change. -/
def notHashable (v : Value) : Failure :=
  .elementary .wrongType ("unhashable type: '" ++ v.qualifiedTypeName ++ "'")

/-- The failure of using an object as a key: its type may refuse, and one that only tells which
objects are equal does not tell enough. -/
def objectKeyFault? (v : Value) (b : Blueprint Value) : Option Failure :=
  match v.ask? "__hash__" with
  | some (.error failure) => some failure
  | some (.ok code) =>
    if code.int?.isSome then Option.none
    else some (.elementary .wrongType "__hash__ method should return an integer")
  | Option.none => if (b.members.lookup "__eq__").isSome then some v.notHashable else Option.none

mutual

/-- The failure of using a value as a key. -/
def keyFault? : Value → Option Failure
  | .list items => some (notHashable (.list items))
  | .dict entries => some (notHashable (.dict entries))
  | .mapping entries => some (notHashable (.mapping entries))
  | .set items => some (notHashable (.set items))
  | .selfDict => some (notHashable .selfDict)
  | .tuple items => keyFaultIn? items
  | .record _ items => keyFaultIn? items
  | .decimal d =>
    if d.isSignaling then some (.elementary .wrongType "Cannot hash a signaling NaN value")
    else Option.none
  | .object b fields => objectKeyFault? (.object b fields) b
  | _ => Option.none

/-- The failure of using values as parts of a key. -/
def keyFaultIn? : List Value → Option Failure
  | [] => Option.none
  | v :: rest => keyFault? v <|> keyFaultIn? rest

end

/-- A value that may be a key, or the failure of using it as one. -/
def asKey (v : Value) : Except Failure Value :=
  match v.keyFault? with
  | some failure => .error failure
  | Option.none => .ok v

@[simp]
theorem asKey_text (s : String) : (Value.text s).asKey = .ok (.text s) := rfl

/-- The set of some values: equal ones are one, and integers are in the order of their places. -/
def setOf (items : List Value) : Value :=
  let found := (items.foldl
    (fun seen v => if seen.any fun w => sameKey w v then seen else v :: seen) []).reverse
  match found.mapM int? with
  | some numbers => .set ((Number.inPlaces numbers).filterMap fun n =>
      List.find? (fun v => v.int? == some n) found)
  | Option.none => .set found

namespace Entries

/-- The value stored under a key. -/
def find? (entries : Entries) (key : Value) : Option Value :=
  (List.find? (fun entry => entry.1.sameKey key) entries).map Prod.snd

/-- Store a value: an equal key keeps its place and its first spelling. -/
def insert : Entries → Value → Value → Entries
  | [], key, value => [(key, value)]
  | (k, v) :: rest, key, value =>
    if k.sameKey key then (k, value) :: rest else (k, v) :: insert rest key value

/-- Store all entries of the second list into the first. -/
def merge (entries more : Entries) : Entries :=
  more.foldl (fun acc entry => Entries.insert acc entry.1 entry.2) entries

/-- The value stored under a name. -/
def get? (entries : Entries) (name : String) : Option Value := entries.find? (.text name)

@[simp]
theorem find?_nil (key : Value) : Entries.find? [] key = Option.none := rfl

@[simp]
theorem merge_nil (entries : Entries) : Entries.merge entries [] = entries := rfl

end Entries
end Value
end BoundUpdate
