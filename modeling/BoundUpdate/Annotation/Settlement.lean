import BoundUpdate.Annotation.Evaluation

namespace BoundUpdate
namespace Annotation

/-!
# Settling types

The references in a type are settled: each is evaluated to the type that its
expression means, unless the same reference is being settled around it.  Then
remarks are dropped, and what is left is the type that an annotation asks for.
-/

namespace Meaning

/-- The parts of a type that are types. -/
def parts : Meaning → List Meaning
  | .generic _ parameters _ => parameters
  | .applied _ _ _ parameters => parameters
  | .barred alternatives => alternatives
  | .annotated inner _ => [inner]
  | _ => []

/-- A type with other parts; one with the same parts stays as it is. -/
def withParts (m : Meaning) (others : List Meaning) : Evaluated Meaning :=
  if sameAll m.parts others then .ok m else rebuilt m others

/-- A class applied once more to its parameters, in which texts refer to types. -/
def appliedAgain (origin : Meaning) (parameters : List Meaning) (isUnpacked : Bool) :
    Evaluated Meaning := do
  let parameters ← parameters.mapM fun m =>
    match m with
    | .text s => referenceTo s
    | m => .ok m
  let isWhole := parameters.length == 2 && (parameters.head?.any standsForParameters)
  let m ← if origin.fullName = "collections.abc.Callable" ∧ !isWhole then
      applyClass origin (.tuple [.tuple parameters.dropLast, parameters.getLast?.getD .nothing])
    else subscripted origin (.tuple parameters)
  return if isUnpacked then unpacked m else m

/-- The remark that a key is required or not, which is dropped with other remarks. -/
def isKeyRemark : Meaning → Bool
  | .applied _ (.form name) _ _ => name == "Required" || name == "NotRequired"
  | _ => false

end Meaning

/-- A type with its references evaluated.  Of the references in `around` none is evaluated again;
`fuel` bounds the nesting. -/
def settle : (fuel : Nat) → (around : List String) → Meaning → Evaluation Meaning
  | 0, _, _ => Evaluated.tooDeep
  | fuel + 1, around, m => do
    match m with
    | .reference s =>
      if around.contains s then return m
      else
        match Meaning.referred? s with
        | none => throw (Meaning.noExpression s)
        | some e =>
          let m ← evaluate e s.length
          let m ← Meaning.typeOf "Forward references must evaluate to types." m
          settle fuel (s :: around) m
    | .generic origin parameters isUnpacked =>
      let m ← Meaning.appliedAgain origin parameters isUnpacked
      return (← m.withParts (← m.parts.mapM (settle fuel around)))
    | m =>
      if m.parts.isEmpty then return m
      else return (← m.withParts (← m.parts.mapM (settle fuel around)))

/-- A type without remarks; `fuel` bounds the nesting. -/
def withoutRemarks : (fuel : Nat) → Meaning → Evaluated Meaning
  | 0, m => .ok m
  | fuel + 1, m =>
    match m with
    | .annotated inner _ => withoutRemarks fuel inner
    | m =>
      if m.parts.isEmpty then .ok m
      else if m.isKeyRemark then withoutRemarks fuel (m.parts.head?.getD .unknown)
      else do m.withParts (← m.parts.mapM (withoutRemarks fuel))

/-- What stands at a parameter or behind the arrow of a method. -/
inductive Note where
  /-- A text that is evaluated later. -/
  | text (s : String)
  /-- The value of an expression. -/
  | value (m : Meaning)

namespace Note

/-- How deep types and references nest at most. -/
def depth : Note → Nat
  | .text s => ownDepth + s.length
  | .value _ => ownDepth

/-- The type that a note is, with its references evaluated. -/
def settled (n : Note) : Evaluation Meaning := do
  match n with
  | .text s => settle n.depth [] (← Meaning.referenceTo s)
  | .value .nothing => return Meaning.nothingType
  | .value (.text s) => settle (ownDepth + s.length) [] (← Meaning.referenceTo s)
  | .value m => settle n.depth [] m

/-- The types that notes are; names given in one are known in the following ones. -/
def allSettled (notes : List Note) : Evaluated (List Meaning) := do
  let (types, _) ← (notes.mapM settled).run {}
  types.mapM (withoutRemarks ownDepth)

/-- The value that an expression in a text has when it is evaluated at once; spaces and tabulators
in front of it do not count. -/
def ofExpression (s : String) : Evaluated Note :=
  let chars := s.toList.dropWhile fun c => c == ' ' || c == '\t'
  if chars.contains '\x00' then Evaluated.invalid "null character"
  else
    match Expression.read chars with
    | none => .error (.elementary .malformedExpression "invalid syntax")
    | some e => do
      let (m, _) ← (evaluate e s.length).run {}
      return .value m

end Note
end Annotation
end BoundUpdate
