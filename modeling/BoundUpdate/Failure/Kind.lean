namespace BoundUpdate

/-!
# Kinds of failure

Failures are told apart by kind.  The first group belongs to this library; the
rest arises in code the library calls: members of objects, converters, drivers
and elementary operations on values.  A failure of a class below one that has a
kind of its own is of that kind, as handlers take it for one; what else its class
is does not matter here.
-/

/-- What went wrong, as far as a caller can tell failures apart. -/
inductive FailureKind where
  /-- Some failure of the library. -/
  | library
  /-- A malformed statement template. -/
  | template
  /-- An invalid declaration or unusable settings. -/
  | configuration
  /-- A placeholder that cannot be resolved or converted. -/
  | binding
  /-- Batch arguments that are not sequences of one length. -/
  | batchShape
  /-- An execution unit that failed. -/
  | execution
  /-- A connection that cannot be obtained. -/
  | connection
  /-- A user's interruption, and everything else outside the ordinary failures that does not ask
  for the program's end. -/
  | interrupt
  /-- A request to end the program. -/
  | exit
  | runtime
  | notImplemented
  | invalidValue
  | wrongType
  | missingKey
  | missingAttribute
  | outOfRange
  | zeroDivision
  | overflow
  | missingModule
  | unknownName
  | malformedExpression
  | malformedJson
  | undecodable
  | isDirectory
  | recursion
  /-- Some other ordinary failure, by the name of its class; no class outside `Exception`. -/
  | other (className : String)
  deriving DecidableEq, Repr

namespace FailureKind

/-- Interruptions and exits are never treated as ordinary failures: these two stand for all classes
outside `Exception`, and every other kind for classes below it. -/
def isOrdinary : FailureKind → Bool
  | .interrupt => false
  | .exit => false
  | _ => true

/-- The kinds that belong to this library. -/
def isLibrary : FailureKind → Bool
  | .library => true
  | .template => true
  | .configuration => true
  | .binding => true
  | .batchShape => true
  | .execution => true
  | .connection => true
  | _ => false

/-- A batch shape failure is a binding failure. -/
def isBinding : FailureKind → Bool
  | .binding => true
  | .batchShape => true
  | _ => false

/-- The kinds that count as a missing or wrong value: invalid values, the library's failures of
declarations and templates, malformed JSON text and undecodable bytes. -/
def isInvalidValue : FailureKind → Bool
  | .invalidValue => true
  | .template => true
  | .configuration => true
  | .malformedJson => true
  | .undecodable => true
  | _ => false

end FailureKind
end BoundUpdate
