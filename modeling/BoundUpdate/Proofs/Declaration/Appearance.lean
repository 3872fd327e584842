import BoundUpdate.Declaration.Method
import BoundUpdate.Proofs.Failure.Sequence
import BoundUpdate.Proofs.Text.Cutting
import Mathlib.Tactic.SplitIfs

namespace BoundUpdate

/-!
# What annotations look like

As long as all annotations of a method can be evaluated, the type that its result
is annotated with decides what a call returns.  As soon as one of them names
something unknown, the spelling of that annotation decides.  The two agree where
a type of nothing is spelled as such and a type is spelled by a name of sequences
exactly if it is one.
-/

open Annotation

/-! ## The annotation of nothing -/

namespace Annotation

/-- Whether an expression is the word for nothing. -/
def Expression.isNothing : Expression → Bool
  | .literal .nothing => true
  | _ => false

variable {notes : List Note} {n : Note} {types : List Meaning} {failure : Failure}

namespace Meaning

end Meaning
end Annotation

namespace ReturnWish

variable {s : String} {m : Meaning}

/-! ## Spelling -/

end ReturnWish

namespace ReturnShape

open ReturnWish

variable {wish other : ReturnWish} {batch : Value} {isBatch : Bool}

end ReturnShape

namespace MethodDeclaration

open ReturnWish

variable {d : MethodDeclaration} {s : String} {isBatch : Bool} {types : List Meaning}
  {unknown : List String}

end MethodDeclaration
end BoundUpdate
