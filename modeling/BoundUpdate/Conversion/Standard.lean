import BoundUpdate.Json.Writer
import BoundUpdate.Lookup.Entries
import BoundUpdate.Value.Display

namespace BoundUpdate
namespace Conversion

/-!
# The standard conversion

Drivers take scalars.  Nothing, scalars, days and bytes are handed over as they
are.  A dictionary, and a list or tuple whose first item is one, becomes JSON
text; a member of an enumeration becomes its value.  An object that tells its
class itself is taken for what it tells.
-/

open Lookup

/-- The items of a list or tuple, or of an object that tells that it is one. -/
def itemsOf (v : Value) : Probe (List Value) :=
  match v.sequence? with
  | some items => pure items
  | none => Probe.ofExcept v.toItems

/-- The first item of a list or tuple that has one, or of an object that tells that it is one. -/
def firstOf (v : Value) : Probe Value :=
  match v.sequence? with
  | some (first :: _) => pure first
  | _ => itemOf v (.int 0)

/-- Whether a value is a dictionary or tells that it is one. -/
def countsAsDict (v : Value) : Probe Bool := if v.isDict then pure true else tells v "dict"

/-- Whether a value is a list or tuple or tells that it is one. -/
def countsAsSequence (v : Value) : Probe Bool :=
  if v.sequence?.isSome then pure true else tellsSequence v

/-- Whether a value is a list or tuple whose first item is a dictionary. -/
def holdsDicts (v : Value) : Probe Bool := do
  if ← countsAsSequence v then
    if ← Probe.ofExcept v.truth then countsAsDict (← firstOf v) else return false
  else return false

/-- The name of the class of a value, which an object tells itself. -/
def toldName (v : Value) : Probe String :=
  if tellsClass v then do
    let told := (← readAttribute v "__class__").toValue
    match told.className? with
    | some name => return name
    | none => Probe.ofExcept (← readAttribute told "__name__").toValue.plain?
  else pure v.typeName

/-- The JSON text of a value, `nesting` levels deep at most. -/
def jsonText (nesting : Nat) (v : Value) : Probe Value :=
  match Json.text v nesting with
  | .ok text => pure (.text text)
  | .error (.failed failure) => throw failure
  | .error (.unwritable part) => do throw (Json.unwritable (← toldName part))

/-- What is bound for a value that no converter is declared for. -/
def standard (v : Value) (nesting : Nat := Nesting.usual) : Probe Value :=
  match v with
  | .enumMember m => pure m.value
  | v => do
    if ← tells v enumerationClass then return (← readAttribute v "value").toValue
    else if ← countsAsDict v then jsonText nesting v
    else if ← holdsDicts v then jsonText nesting (.list (← itemsOf v))
    else return v

/-- Whether a value is bound as JSON text, as long as no object tells otherwise. -/
def isStructured (v : Value) : Bool :=
  match v.sequence? with
  | some (first :: _) => first.isDict
  | some [] => false
  | none => v.isDict

/-- Whether a value is bound as it is, as long as no object tells otherwise. -/
def keeps (v : Value) : Bool :=
  match v with
  | .enumMember _ => false
  | v => !isStructured v

end Conversion
end BoundUpdate
