import BoundUpdate.Annotation.Format

namespace BoundUpdate
namespace Annotation
namespace Meaning

/-!
# Operators between any values

An operator computes between values, fills a pattern or stands between types.
-/

/-- Whether a value is a number that is not known in full. -/
def isVagueNumber : Meaning → Bool
  | .object (.type "int") _ => true
  | .object (.type "complex") _ => true
  | .unknown => true
  | _ => false

/-- Whether a value is of a class that an expression makes. -/
def isOfMadeClass : Meaning → Bool
  | .object (.made ..) _ => true
  | _ => false

/-- An operator between two values. -/
def binary (operator : BinaryOperator) (a b : Meaning) : Evaluated Meaning :=
  if isVagueNumber a || isVagueNumber b then .ok .unknown
  else
    match computed? operator a b with
    | some result => result
    | none =>
      match operator, a with
      | .modulo, .text s => do return .text (String.ofList (← ofPattern false s.toList b))
      | .modulo, .bytes bs isMutable => do
        let cs ← ofPattern true (charsOf bs) b
        return .bytes (cs.map fun c => UInt8.ofNat c.toNat) isMutable
      | .bitOr, a => if isOfMadeClass a || isOfMadeClass b then .ok .unknown else atBar a b
      | _, a =>
        if isOfMadeClass a || isOfMadeClass b then .ok .unknown
        else
          match a, b with
          | .object c _, _ =>
            if c.isBelow "collections.Counter" then .ok .unknown
            else Evaluated.misfit "unsupported operands"
          | _, _ => Evaluated.misfit "unsupported operands"

/-- Whether a comparison of two values holds, given the items of the second one. -/
def compared (c : Comparison) (a b : Meaning) (items : Evaluated (List Meaning)) : Evaluated Bool :=
  match c with
  | .equal => .ok (same a b)
  | .unequal => .ok !(same a b)
  | .same => .ok (isOne a b)
  | .notSame => .ok !(isOne a b)
  | .member => contains b a items
  | .notMember => do return !(← contains b a items)
  | c => ordered c a b

/-- An item of a collection, or a type applied to parameters. -/
def subscripted (owner index : Meaning) : Evaluated Meaning :=
  match item? owner index <|> applied? owner index with
  | some result => result
  | none => Evaluated.misfit "not subscriptable"

end Meaning
end Annotation
end BoundUpdate
