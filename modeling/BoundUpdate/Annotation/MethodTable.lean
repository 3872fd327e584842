import BoundUpdate.Annotation.ByteMethods
import BoundUpdate.Annotation.SpecialNames

namespace BoundUpdate
namespace Annotation
namespace Method

/-!
# All functions of values

The function that a value has by a name: one that an expression gave to its
class, one of the class, or one with a special name.
-/

/-- The functions of a value by its class. -/
def tableOf (m : Meaning) : List (String × Method) :=
  match m with
  | .text _ => ofTexts
  | .bytes _ false => ofTexts ++ ofBytes
  | .bytes _ true => ofMutableBytes ++ ofTexts ++ ofBytes
  | .list _ => ofRows
  | .tuple _ => ofRows
  | .range .. => ofRanges ++ ofRows
  | .slice .. => ofSlices
  | .set .. => ofSets
  | .dict kind _ => if kind = "collections.Counter" then ofCounts ++ ofDicts else ofDicts
  | .integer _ => ofNumbers
  | .truth _ => ofNumbers
  | .real _ => ofNumbers
  | .complex .. => ofNumbers
  | .type "bytes" => ofByteClasses ++ ofClasses
  | .type "bytearray" => ofByteClasses ++ ofClasses
  | .type "collections.Counter" => ofCounts ++ ofClasses
  | .type _ => ofClasses
  | .made .. => ofClasses
  | .generator .. => ofGenerators
  | .object c _ =>
    if c.isBelow "BaseException" then ofFailures
    else if c.fullName = "memoryview" then ofViews
    else if c.isBelow "collections.deque" then ofQueues ++ ofRows
    else if c.isBelow "list" || c.isBelow "tuple" then ofRows
    else if Meaning.isKeyView m then ofKeyViews
    else []
  | _ => []

/-- The function of texts or byte texts that a value has by a name. -/
def textMethod? (m : Meaning) (name : String) : Option Method :=
  match m, TextMethod.all.lookup name with
  | .text s, some f => some fun _ _ a => do return (← f.apply s.toList a)
  | .bytes bs isMutable, some f =>
    if TextMethod.textOnly.contains name then none
    else some fun _ _ a => do
      let a ← if searching.contains name then soughtByte a else pure a
      return (← f.applyToBytes bs isMutable a)
  | _, _ => none

/-- What a function of a value gives. -/
def call (k : Machine) (m : Meaning) (name : String) (a : Arguments) : Evaluation Meaning :=
  match m.classOf.madeMember? name with
  | some f => k.call f { a with positional := m :: a.positional }
  | none =>
    match (tableOf m).lookup name <|> textMethod? m name <|> special? name with
    | some f => f k m a
    | none => return .unknown

end Method
end Annotation
end BoundUpdate
