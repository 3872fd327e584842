import BoundUpdate.Failure.Kind
import BoundUpdate.Number.Digits
import BoundUpdate.Text.Quoted

namespace BoundUpdate

/-!
# Failures

Every failure of the library is a cause with the data that its message needs;
the wording stands in one function per family.  A failure that arises outside
the library keeps its kind and its own text: it is *raised* when some code
signalled it on purpose and *elementary* when an operation on values did not
apply.
-/

/-- The failure that another failure was made from. -/
structure Cause where
  kind : FailureKind
  text : String
  deriving DecidableEq, Repr

/-- What is wrong with one placeholder of a template. -/
inductive TemplateFault where
  | unterminated
  | empty
  | notNumeric (index : String)
  | zeroIndex
  | badMember (name content : String)
  deriving DecidableEq, Repr

namespace TemplateFault

/-- The wording of a fault. -/
def message : TemplateFault → String
  | .unterminated => "Unterminated '\x7b' in placeholder"
  | .empty => "Empty placeholder '?\x7b\x7d'"
  | .notNumeric index => "Placeholder index must be numeric, got " ++ Text.quote index
  | .zeroIndex => "Placeholder index must be 1 or greater"
  | .badMember name content =>
    "Invalid member name " ++ Text.quote name ++ " in placeholder ?\x7b" ++ content ++ "\x7d"

end TemplateFault

/-- A template that cannot be read. -/
inductive TemplateError where
  /-- The template is not a text. -/
  | notText (typeName : String)
  /-- The text `source` has a fault at a column. -/
  | malformed (fault : TemplateFault) (source : String) (column : Nat)
  deriving DecidableEq, Repr

namespace TemplateError

/-- The wording of the error; a column is named when there is one. -/
def message : TemplateError → String
  | .notText typeName => "Template must be a string, got " ++ typeName
  | .malformed fault _ column =>
    fault.message ++ " (column " ++ Number.natText column ++ ")"

/-- The column of the fault. -/
def column? : TemplateError → Option Nat
  | .notText _ => none
  | .malformed _ _ column => some column

/-- The text with the fault. -/
def source? : TemplateError → Option String
  | .notText _ => none
  | .malformed _ source _ => some source

end TemplateError

/-- An invalid declaration or unusable settings. -/
inductive ConfigurationFault where
  | noStatement (name : String)
  | batchWithKeys (name : String)
  | voidWithKeys (name : String)
  | keysNotRequested (name : String)
  | keysNotReturned (name : String)
  | countsWithoutBatch (name : String)
  | columnsMissing (name : String)
  | notConverterType (typeName : String)
  | converterNeedsArguments (typeName : String) (cause : Cause)
  | invalidConverter (shown : String)
  | fileNotFound (path : String)
  | malformedFile (path : String) (cause : Cause)
  | malformedVariable (name : String) (cause : Cause)
  | invalidBoolean (name shown : String)
  | invalidInteger (name shown : String) (cause : Cause)
  | invalidPrefixes (shown : String)
  | typeNotInferred
  | typeMissing
  | noDatabases
  | unknownDatabase (shown : String)
  | noUnit
  | closed (typeName : String)
  | notQueryType (shown : String)
  deriving DecidableEq, Repr

namespace ConfigurationFault

/-- The wording of a fault. -/
def message : ConfigurationFault → String
  | .noStatement name => name ++ ": no SQL statement given"
  | .batchWithKeys name => name ++ ": generated keys cannot be returned from a batch update"
  | .voidWithKeys name => name ++ ": a void query cannot request generated keys"
  | .keysNotRequested name => name ++ ": returning keys requires keys other than NO_KEYS_RETURNED"
  | .keysNotReturned name => name ++ ": a query requesting generated keys must return keys"
  | .countsWithoutBatch name => name ++ ": per-row counts are only available for batch updates"
  | .columnsMissing name =>
    name ++ ": RETURNED_KEYS_COLUMNS_SPECIFIED requires key_columns"
  | .notConverterType typeName => typeName ++ " is not a TypeMapper subclass"
  | .converterNeedsArguments typeName cause =>
    "TypeMapper " ++ typeName ++ " must be constructible without arguments: " ++ cause.text
  | .invalidConverter shown => "Invalid parameter binding: " ++ shown
  | .fileNotFound path => "Config file not found: " ++ path
  | .malformedFile path cause => "Invalid JSON in " ++ path ++ ": " ++ cause.text
  | .malformedVariable name cause => name ++ " is not valid JSON: " ++ cause.text
  | .invalidBoolean name shown => "Invalid boolean for " ++ name ++ ": " ++ shown
  | .invalidInteger name shown _ => "Invalid integer for " ++ name ++ ": " ++ shown
  | .invalidPrefixes shown => "Invalid accessor prefixes: " ++ shown
  | .typeNotInferred => "Could not infer database type from DSN; set 'type'."
  | .typeMissing => "Either 'dsn' or 'type' is required for a database entry."
  | .noDatabases => "No databases configured"
  | .unknownDatabase shown => "Unknown database key: " ++ shown
  | .noUnit => "BaseQuery needs a client or an execution unit"
  | .closed typeName => typeName ++ " is closed"
  | .notQueryType shown => shown ++ " is not a BaseQuery subclass"

/-- The failure the fault was made from. -/
def cause? : ConfigurationFault → Option FailureKind
  | .converterNeedsArguments _ cause => some cause.kind
  | .malformedFile _ cause => some cause.kind
  | .malformedVariable _ cause => some cause.kind
  | .invalidInteger _ _ cause => some cause.kind
  | .unknownDatabase _ => some .missingKey
  | _ => none

end ConfigurationFault

/-- A placeholder that cannot be resolved or converted. -/
inductive BindingFault where
  | argumentMissing (placeholder index : String) (given : Nat)
  | noMember (name typeName : String) (tried : List String)
  | accessorFailed (typeName accessor : String) (cause : Cause)
  | conversionFailed (name typeName position : String) (cause : Cause)
  | converterFailed (name converter position : String) (cause : Cause)
  deriving DecidableEq, Repr

namespace BindingFault

/-- The wording of a fault. -/
def message : BindingFault → String
  | .argumentMissing placeholder index given =>
    "Placeholder " ++ placeholder ++ " refers to argument " ++ index ++ ", but " ++
      Number.natText given ++ " argument(s) were given"
  | .noMember name typeName tried =>
    "No field or accessor named '" ++ name ++ "' on type " ++ typeName ++ " (tried " ++
      String.intercalate ", " tried ++ ")"
  | .accessorFailed typeName accessor cause =>
    "Accessor " ++ typeName ++ "." ++ accessor ++ "() failed: " ++ cause.text
  | .conversionFailed name typeName position cause =>
    name ++ ": cannot bind " ++ typeName ++ " for parameter " ++ position ++ ": " ++ cause.text
  | .converterFailed name converter position cause =>
    name ++ ": converter " ++ converter ++ " failed for parameter " ++ position ++ ": " ++
      cause.text

/-- The failure the fault was made from. -/
def cause? : BindingFault → Option FailureKind
  | .accessorFailed _ _ cause => some cause.kind
  | .conversionFailed _ _ _ cause => some cause.kind
  | .converterFailed _ _ _ cause => some cause.kind
  | _ => none

end BindingFault

/-- Batch arguments without one common length. -/
inductive BatchFault where
  | noArguments
  | notSequence (position : Nat) (typeName : String)
  | differing (lengths : List Nat)
  deriving DecidableEq, Repr

namespace BatchFault

/-- The wording of a fault. -/
def message : BatchFault → String
  | .noArguments => "A batch update needs at least one list or tuple argument"
  | .notSequence position typeName =>
    "Batch argument " ++ Number.natText position ++ " must be a list or tuple, got " ++ typeName
  | .differing lengths =>
    "Batch arguments have differing lengths: [" ++
      String.intercalate ", " (lengths.map Number.natText) ++ "]"

end BatchFault

/-- A statement that its execution unit failed on. -/
structure ExecutionFault where
  name : String
  source : String
  cause : Cause
  deriving DecidableEq, Repr

namespace ExecutionFault

/-- The wording of the fault. -/
def message (fault : ExecutionFault) : String :=
  fault.name ++ ": failed to execute statement: " ++ fault.cause.text

end ExecutionFault

/-- A connection that cannot be obtained. -/
inductive ConnectionFault where
  | unsupported (type : String)
  /-- The driver failed; `attempt` tells what was tried. -/
  | failed (cause : Cause) (attempt : String)
  deriving DecidableEq, Repr

namespace ConnectionFault

/-- The wording of a fault. -/
def message : ConnectionFault → String
  | .unsupported type => "Unsupported database type: " ++ type
  | .failed cause _ => cause.text

/-- What was tried when the failure arose. -/
def attempt : ConnectionFault → String
  | .unsupported _ => ""
  | .failed _ attempt => attempt

/-- The failure the fault was made from. -/
def cause? : ConnectionFault → Option FailureKind
  | .unsupported _ => none
  | .failed cause _ => some cause.kind

end ConnectionFault

/-- A failure. -/
inductive Failure where
  | template (error : TemplateError)
  | configuration (fault : ConfigurationFault)
  | binding (fault : BindingFault)
  | batchShape (fault : BatchFault)
  | execution (fault : ExecutionFault)
  | connection (fault : ConnectionFault)
  /-- Signalled on purpose, by code outside the library or by a check of its own. -/
  | raised (kind : FailureKind) (text : String)
  /-- An operation did not apply to its operands. -/
  | elementary (kind : FailureKind) (text : String)
  deriving DecidableEq, Repr

namespace Failure

/-- The kind of a failure. -/
def kind : Failure → FailureKind
  | .template _ => .template
  | .configuration _ => .configuration
  | .binding _ => .binding
  | .batchShape _ => .batchShape
  | .execution _ => .execution
  | .connection _ => .connection
  | .raised kind _ => kind
  | .elementary kind _ => kind

/-- The text of a failure; a missing key is shown quoted. -/
def text : Failure → String
  | .template error => error.message
  | .configuration fault => fault.message
  | .binding fault => fault.message
  | .batchShape fault => fault.message
  | .execution fault => fault.message
  | .connection fault => fault.message
  | .raised .missingKey text => Text.quote text
  | .raised _ text => text
  | .elementary _ text => text

/-- The kind of the failure that a failure was made from. -/
def cause? : Failure → Option FailureKind
  | .configuration fault => fault.cause?
  | .binding fault => fault.cause?
  | .execution fault => some fault.cause.kind
  | .connection fault => fault.cause?
  | _ => none

/-- The column of the fault in a template, if it is known. -/
def column? : Failure → Option Nat
  | .template error => error.column?
  | _ => none

/-- The text of the template with the fault, if it is known. -/
def source? : Failure → Option String
  | .template error => error.source?
  | _ => none

/-- The statement whose execution failed, if it is known. -/
def statement? : Failure → Option String
  | .execution fault => some fault.source
  | _ => none

/-- What was tried when a connection could not be obtained. -/
def attempt : Failure → String
  | .connection fault => fault.attempt
  | _ => ""

/-- Whether the failure of an operation on values, which has no message of its own. -/
def isElementary : Failure → Bool
  | .elementary .. => true
  | _ => false

/-- A failure as the cause of another one. -/
def toCause (failure : Failure) : Cause := { kind := failure.kind, text := failure.text }

/-- Whether a failure is ordinary: not an interruption and not an exit. -/
def isOrdinary (failure : Failure) : Bool := failure.kind.isOrdinary

@[simp]
theorem toCause_kind (failure : Failure) : failure.toCause.kind = failure.kind := rfl

@[simp]
theorem toCause_text (failure : Failure) : failure.toCause.text = failure.text := rfl

/-- The failure of calls that lie deeper in each other than they may. -/
def tooDeep (doing : String) : Failure :=
  .elementary .recursion ("maximum recursion depth exceeded" ++ doing)

end Failure

namespace Nesting

/-!
## Nesting

A value that holds values is handled by calls inside calls, some for every level.
How deep calls may lie in each other is bounded, so what handles such a value is
told how many levels are left.
-/

/-- The levels that are left as a rule: of a thousand calls some are around already. -/
def usual : Nat := 950

/-- The levels that are left one level deeper. -/
def enter {ε : Type} (failure : ε) : Nat → Except ε Nat
  | 0 => .error failure
  | n + 1 => .ok n

@[simp]
theorem enter_zero {ε : Type} (failure : ε) : enter failure 0 = .error failure := rfl

@[simp]
theorem enter_succ {ε : Type} (failure : ε) (n : Nat) : enter failure (n + 1) = .ok n := rfl

end Nesting
end BoundUpdate
