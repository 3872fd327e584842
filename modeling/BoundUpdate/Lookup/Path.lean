import BoundUpdate.Lookup.Entries
import BoundUpdate.Value.Equality

namespace BoundUpdate
namespace Lookup

/-!
# Paths from arguments to values

A placeholder denotes the value that its path leads to from its argument.  A
path that meets nothing ends there: the value is nothing, and no further member
is looked up.
-/

/-!
## Members

A member of a mapping is the value of a key, a member of any other value is an
attribute that is no method.  What is a mapping and what is a method, objects
may tell themselves.  Without such a field the accessors of the convention are
tried in order; the first one that can be called is called, and no other one
is.
-/

/-- The value under a key of an object that tells that it is a mapping: it is asked first whether
it holds the key. -/
def keyed? (target : Value) (name : String) : Probe (Option Value) := do
  if ← holds target (.text name) then return some (← itemOf target (.text name))
  else return none

/-- The field that an attribute is, unless its value tells that it is a method. -/
def fieldOf? (found : Attribute) : Probe (Option Value) :=
  match found.field? with
  | none => pure none
  | some v => do
    if ← tells v "method" then return none
    else if ← tells v "builtin_function_or_method" then return none
    else return some v

/-- The field of a value with a name. -/
def field? (target : Value) (name : String) : Probe (Option Value) :=
  match target.entries? with
  | some entries => pure (Value.Entries.get? entries name)
  | none => do
    if ← tellsMapping target then keyed? target name
    else
      match ← attribute? target name with
      | some found => fieldOf? found
      | none => return none

/-- The outcome of calling an accessor: an ordinary failure becomes a failure of binding. -/
def callAccessor (target : Value) (accessor : String) (call : Probe Value) : Probe Value := do
  match ← call.attempt with
  | .ok v => return v
  | .error failure =>
    if failure.isOrdinary then
      throw (.binding (.accessorFailed target.typeName accessor failure.toCause))
    else throw failure

/-- The answer of the first of some accessors that a value has. -/
def accessor? (target : Value) : List String → Probe (Option Value)
  | [] => pure none
  | name :: rest => do
    match ← attribute? target name with
    | none => accessor? target rest
    | some found =>
      match callAttribute? found [] with
      | none => accessor? target rest
      | some call => return some (← callAccessor target name call)

/-- The member of a value with a name: a field, or else the answer of an accessor. -/
def member (target : Value) (name : String) (convention : AccessorConvention) : Probe Value := do
  match ← field? target name with
  | some v => return v
  | none =>
    let tried := convention.accessorNames name
    match ← accessor? target tried with
    | some v => return v
    | none => throw (.binding (.noMember name target.typeName tried))

/-! ## Paths -/

/-- Note that a member on the way of a placeholder was not found. -/
def noteUnresolved (described : String) (failure : Failure) : Act Unit :=
  if failure.kind.isBinding then
    Act.note .error .members ("Failed to resolve " ++ described ++ ": " ++ failure.text)
  else pure ()

/-- Follow a path of members from a value; `described` names the placeholder in notes. -/
def follow (convention : AccessorConvention) (described : String) (v : Value) :
    List String → Act Value
  | [] => pure v
  | name :: rest =>
    match v with
    | .none => pure .none
    | v => do
      match ← Act.attempt (Act.probe (member v name convention)) with
      | .ok next => follow convention described next rest
      | .error failure =>
        noteUnresolved described failure
        throw failure

/-- The argument of a placeholder. -/
def argument? (p : Placeholder) (arguments : List Value) : Option Value :=
  if p.index < 1 then none else arguments[(p.index - 1).toNat]?

/-- The value that a placeholder denotes. -/
def resolve (convention : AccessorConvention) (p : Placeholder) (arguments : List Value) :
    Act Value :=
  match argument? p arguments with
  | some v => follow convention p.describe v p.path
  | none => throw (.binding (.argumentMissing p.describe (Number.intText p.index)
      arguments.length))

end Lookup
end BoundUpdate
