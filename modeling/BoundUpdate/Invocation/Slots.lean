import BoundUpdate.Declaration.Spec
import BoundUpdate.Lookup.Reference

namespace BoundUpdate
namespace Spec

/-!
# Values for the slots of a statement

The placeholders of a template, in source order, are the slots of a statement.
A slot's value is what its placeholder denotes, converted by the converter of
its position or else by the standard conversion.  Ordinary failures of a declared
converter become failures of binding; of the standard conversion only those do
that blame the value.
-/

/-- The outcome of a conversion; a failure that is caught becomes one of binding. -/
def reporting (conversion : Probe Value) (catches : Failure → Bool)
    (report : Cause → BindingFault) : Probe Value := do
  match ← conversion.attempt with
  | .ok converted => return converted
  | .error failure =>
    if catches failure then throw (.binding (report failure.toCause)) else throw failure

/-- Whether a failure is caught around the standard conversion: only a wrong type and an invalid
value are. -/
def blamesValue (failure : Failure) : Bool :=
  failure.kind = .wrongType || failure.kind.isInvalidValue

/-- The outcome of the standard conversion for a slot. -/
def bindStandard (spec : Spec) (v position : Value) : Probe Value :=
  reporting (Conversion.standard v) blamesValue
    (.conversionFailed spec.name v.typeName position.plain)

/-- The outcome of a declared converter for a slot. -/
def bindWith (spec : Spec) (c : Converter) (v position : Value) : Probe Value :=
  reporting (c.apply v) Failure.isOrdinary (.converterFailed spec.name c.label position.plain)

/-- Convert a value for the slot at a position, counted from one. -/
def bindSlot (spec : Spec) (v position : Value) : Probe Value := do
  match ← Probe.ofExcept (spec.converterAt position) with
  | none => bindStandard spec v position
  | some c => bindWith spec c v position

/-- The values of some slots, the first of which has the given position; `denoted` reads what a
placeholder denotes. -/
def bindFrom (spec : Spec) (denoted : Placeholder → Act Value) (position : Nat) :
    List Placeholder → Act (List Value)
  | [] => pure []
  | p :: rest => do
    let v ← denoted p
    let bound ← Act.probe (bindSlot spec v (.int position))
    let others ← bindFrom spec denoted (position + 1) rest
    return bound :: others

/-- The values of all slots for one list of arguments. -/
def bindAll (spec : Spec) (convention : AccessorConvention) (arguments : List Value) :
    Act (List Value) :=
  bindFrom spec (fun p => Lookup.resolve convention p arguments) 1 spec.template.placeholders

/-- The values of all slots for a value that holds the arguments at their places, counted from
zero: a row of items, or a dictionary with the places for keys.  Nothing is asked of it when there
are no slots. -/
def bindAllOf (spec : Spec) (convention : AccessorConvention) (arguments : Value) :
    Act (List Value) :=
  bindFrom spec (fun p => (ArgumentReference.ofPlaceholder p).resolve convention arguments) 1
    spec.template.placeholders

theorem bindAllOf_list (spec : Spec) (convention : AccessorConvention) (arguments : List Value) :
    spec.bindAllOf convention (.list arguments) = spec.bindAll convention arguments := by
  simp only [bindAllOf, bindAll, ArgumentReference.resolve_list]

end Spec
end BoundUpdate
