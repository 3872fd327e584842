import BoundUpdate.Annotation.Settlement
import BoundUpdate.Declaration.Spec
import BoundUpdate.Text.Split

namespace BoundUpdate

/-!
# Return shapes from annotations

A method that does not choose what it returns returns what its annotation asks
for.  When some annotation of the method cannot be evaluated because a name
means nothing, the return annotation is judged by what it looks like.
-/

/-- What an annotation asks for. -/
inductive ReturnWish where
  | unstated
  | nothing
  | sequence
  | single
  deriving DecidableEq, Repr

namespace ReturnWish

/-- Names that look like sequences. -/
def sequenceNames : List String :=
  ["list", "List", "tuple", "Tuple", "Sequence", "Collection", "Iterable"]

/-- The name that an annotation's text starts with: what stands before the first bracket and after
the last point before it. -/
def leadingName (s : List Char) : List Char :=
  let owner := Text.before '[' s
  match Text.cutLast? '.' owner with
  | some (_, name) => name
  | none => owner

/-- What an annotation's text looks like. -/
def ofText (s : String) : ReturnWish :=
  if s = "None" then .nothing
  else if sequenceNames.contains (String.ofList (leadingName s.toList)) then .sequence
  else .single

/-- What a meaning asks for: nothing, or a sequence when the class that it was made from is one. -/
def ofMeaning (m : Annotation.Meaning) : ReturnWish :=
  let origin := match Annotation.Routine.originOf m with
    | .nothing => m
    | origin => origin
  if (m matches .nothing) || m.isNothingType then .nothing
  else if origin.isClass && origin.isSequenceClass then .sequence
  else .single

/-- What an annotation looks like without being evaluated. -/
def ofAppearance : Annotation.Note → ReturnWish
  | .text s => ofText s
  | .value (.text s) => ofText s
  | .value m => ofMeaning m

/-- Whether a failure of evaluating means that annotations are judged by what they look like. -/
def isForgiven (failure : Failure) : Bool :=
  failure.kind = .unknownName || failure.kind = .wrongType

/-- What the annotation of a method's result asks for, given the annotations of its parameters,
which are evaluated first. -/
def ofAnnotation (result : Option Annotation.Note) (parameters : List String) :
    Except Failure ReturnWish :=
  match Annotation.Note.allSettled (parameters.map .text ++ result.toList) with
  | .ok types =>
    match result, types.getLast? with
    | some _, some m => .ok (ofMeaning m)
    | _, _ => .ok .unstated
  | .error failure =>
    if isForgiven failure then .ok ((result.map ofAppearance).getD .unstated)
    else .error failure

end ReturnWish

namespace ReturnShape

/-- The shape that a wish leads to. -/
def ofWish (wish : ReturnWish) (batch : Bool) (keys : KeyRequest) : ReturnShape :=
  match wish with
  | .unstated => if keys.isWanted then .keys else .count
  | .nothing => .void
  | .sequence => if keys.isWanted then .keys else if batch then .counts else .count
  | .single => if keys.isWanted then .key else .count

/-- The shape that a wish leads to when a value tells whether the update runs as a batch; it is
asked only where that matters. -/
def ofWish? (wish : ReturnWish) (batch : Value) (keys : KeyRequest) :
    Except Failure ReturnShape := do
  if wish = .sequence && !keys.isWanted then return ofWish wish (← batch.truth) keys
  else return ofWish wish false keys

end ReturnShape
end BoundUpdate
