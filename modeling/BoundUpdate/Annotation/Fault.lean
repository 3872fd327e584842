import BoundUpdate.Annotation.Display
import BoundUpdate.Failure.Basic

namespace BoundUpdate
namespace Annotation

/-!
# Failures of annotations

An annotation fails when a name means nothing, when an operation does not apply
to its operands, or when the library of templates refuses parameters.  Only a
refusal has a message of its own.
-/

/-- What an operation on meanings gives. -/
abbrev Evaluated := Except Failure

namespace Evaluated

variable {α : Type}

/-- Operands that do not fit together. -/
def misfit (text : String) : Evaluated α := .error (.elementary .wrongType text)

/-- An operand of a fitting class with a value that does not fit. -/
def invalid (text : String) : Evaluated α := .error (.elementary .invalidValue text)

/-- A refusal with a message. -/
def refused (text : String) : Evaluated α := .error (.raised .wrongType text)

/-- A member that is not there. -/
def lacking (m : Meaning) (member : String) : Evaluated α :=
  .error (.elementary .missingAttribute
    ("'" ++ m.typeName ++ "' object has no attribute " ++ Text.quote member))

/-- A key that is not there. -/
def noKey (key : Meaning) : Evaluated α := .error (.elementary .missingKey key.shown)

/-- A place that is not there, in the wording of an operation. -/
def outsideOf (text : String) : Evaluated α := .error (.elementary .outOfRange text)

/-- A place that is not there. -/
def outside : Evaluated α := outsideOf "index out of range"

/-- A division by zero. -/
def byZero : Evaluated α := .error (.elementary .zeroDivision "division by zero")

/-- A number that is too large, in the wording of an operation. -/
def overflowOf (text : String) : Evaluated α := .error (.elementary .overflow text)

/-- A number that is too large. -/
def overflow : Evaluated α := overflowOf "result too large"

/-- An infinite number where an integer is needed. -/
def infiniteInteger : Evaluated α := overflowOf "cannot convert float infinity to integer"

/-- Items that have run out. -/
def exhausted : Evaluated α := .error (.elementary (.other "StopIteration") "")

/-- A value that is too large to be made. -/
def noMemory : Evaluated α := .error (.elementary (.other "MemoryError") "")

/-- Calls that nest too deeply. -/
def tooDeep : Evaluated α := .error (.tooDeep "")

end Evaluated

/-- Whether an operation does not apply to its operands. -/
def isMisfit (failure : Failure) : Bool := failure.kind = .wrongType

/-- The kinds of failures by the names of their classes. -/
def kindsByName : List (String × FailureKind) :=
  [("RuntimeError", .runtime), ("NotImplementedError", .notImplemented),
   ("ValueError", .invalidValue), ("TypeError", .wrongType), ("KeyError", .missingKey),
   ("AttributeError", .missingAttribute), ("IndexError", .outOfRange),
   ("ZeroDivisionError", .zeroDivision), ("OverflowError", .overflow),
   ("ModuleNotFoundError", .missingModule), ("NameError", .unknownName),
   ("UnboundLocalError", .unknownName), ("SyntaxError", .malformedExpression),
   ("UnicodeDecodeError", .undecodable), ("IsADirectoryError", .isDirectory),
   ("RecursionError", .recursion), ("KeyboardInterrupt", .interrupt), ("SystemExit", .exit)]

/-- The kind of the failures of a class. -/
def kindOfClass (name : String) : FailureKind := (kindsByName.lookup name).getD (.other name)

end Annotation
end BoundUpdate
