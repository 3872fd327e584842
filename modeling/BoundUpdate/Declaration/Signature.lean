import BoundUpdate.Failure.Basic
import BoundUpdate.Text.Quoted
import BoundUpdate.Value.Equality

namespace BoundUpdate

/-!
# Signatures

A declared method has parameters in order.  A call gives values by position and
by name; binding the call to the parameters gives every parameter one value or
its default, or tells the first way in which the call does not fit.
-/

/-- How a parameter takes its value. -/
inductive ParameterKind where
  | positionalOnly
  | positional
  /-- Takes all remaining values given by position. -/
  | variadic
  | namedOnly
  /-- Takes all remaining values given by name. -/
  | variadicNamed
  deriving DecidableEq, Repr

/-- A parameter. -/
structure Parameter where
  name : String
  kind : ParameterKind := .positional
  /-- The value of a parameter that a call leaves out. -/
  default? : Option Value := none

/-- The parameters of a method, the receiver first. -/
abbrev Signature := List Parameter

/-- Values by name. -/
abbrev Named := List (String × Value)

namespace Parameter

/-- Whether a parameter takes any number of values. -/
def isVariadic (p : Parameter) : Bool := p.kind = .variadic || p.kind = .variadicNamed

/-- Whether a call may leave a parameter out. -/
def isOptional (p : Parameter) : Bool := p.isVariadic || p.default?.isSome

/-- The values that a parameter contributes to the arguments: a variadic one all it has taken, one
for values by name none. -/
def contribution (p : Parameter) (bound : Named) : List Value :=
  match p.kind, bound.lookup p.name, p.default? with
  | .variadicNamed, _, _ => []
  | .variadic, some v, _ => v.items?.getD []
  | .variadic, none, _ => []
  | _, some v, _ => [v]
  | _, none, some v => [v]
  | _, none, none => []

end Parameter

namespace Signature

/-- The failure of a call that does not fit. -/
def misfit {α : Type} (text : String) : Except Failure α := .error (.raised .wrongType text)

/-- The failure of leaving out a parameter. -/
def missing {α : Type} (p : Parameter) : Except Failure α :=
  misfit ("missing a required argument: " ++ Text.quote p.name)

/-- The failure of naming a parameter that takes its value by position. -/
def namedPositional {α : Type} (p : Parameter) : Except Failure α :=
  misfit (Text.quote p.name ++ " parameter is positional only, but was passed as a keyword")

/-- The failure of giving more values than there are parameters for. -/
def surplus {α : Type} : Except Failure α := misfit "too many positional arguments"

/-- Whether a value is given by name. -/
def isGiven (named : Named) (name : String) : Bool := (named.lookup name).isSome

/-- Bind the values given by position.  Answers what is bound and the parameters that are left. -/
def bindPositional (named : Named) :
    Signature → List Value → Except Failure (Named × Signature)
  | [], [] => .ok ([], [])
  | [], _ :: _ => surplus
  | p :: rest, [] =>
    if p.kind = .variadic then .ok ([], rest)
    else if isGiven named p.name then
      if p.kind = .positionalOnly then namedPositional p else .ok ([], p :: rest)
    else if p.isOptional then .ok ([], p :: rest)
    else missing p
  | p :: rest, v :: values =>
    if p.kind = .variadicNamed ∨ p.kind = .namedOnly then surplus
    else if p.kind = .variadic then .ok ([(p.name, .tuple (v :: values))], rest)
    else if isGiven named p.name ∧ p.kind ≠ .positionalOnly then
      misfit ("multiple values for argument " ++ Text.quote p.name)
    else do
      let (bound, left) ← bindPositional named rest values
      return ((p.name, v) :: bound, left)

/-- Bind the values given by name to the parameters that are left.  Answers what is bound and the
values that remain. -/
def bindNamed : Signature → Named → Except Failure (Named × Named)
  | [], named => .ok ([], named)
  | p :: rest, named =>
    if p.isVariadic then bindNamed rest named
    else
      match named.lookup p.name with
      | none => if p.default?.isSome then bindNamed rest named else missing p
      | some v =>
        if p.kind = .positionalOnly then namedPositional p
        else do
          let (bound, remaining) ← bindNamed rest (named.filter fun entry => entry.1 != p.name)
          return ((p.name, v) :: bound, remaining)

/-- Bind a call to parameters. -/
def bind (s : Signature) (values : List Value) (named : Named) : Except Failure Named := do
  let (front, left) ← bindPositional named s values
  let (back, remaining) ← bindNamed left named
  match remaining with
  | [] => return front ++ back
  | (name, _) :: _ =>
    if left.any fun p => p.kind = .variadicNamed then return front ++ back
    else misfit ("got an unexpected keyword argument " ++ Text.quote name)

/-- The parameters after the receiver. -/
def operands (s : Signature) : Signature := s.drop 1

/-- How many arguments a call has, unless some parameter takes any number. -/
def arity (s : Signature) : Option Nat :=
  if s.operands.any Parameter.isVariadic then none else some s.operands.length

/-- The arguments of a bound call in the order of the parameters, the receiver left out. -/
def arguments (s : Signature) (bound : Named) : List Value :=
  s.operands.flatMap fun p => p.contribution bound

/-- The arguments of a call. -/
def argumentsOf (s : Signature) (receiver : Value) (values : List Value) (named : Named) :
    Except Failure (List Value) :=
  (s.bind (receiver :: values) named).map s.arguments

end Signature
end BoundUpdate
