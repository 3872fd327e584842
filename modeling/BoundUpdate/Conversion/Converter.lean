import BoundUpdate.Conversion.Standard
import BoundUpdate.Lookup.Path
import BoundUpdate.Value.Display

namespace BoundUpdate

/-!
# Converters

A declaration may name a converter for a bind position.  It can be a type of
converters, which is instantiated once, a converter, an object with a
`convert` member that can be called, or anything else that can be called.
Naming the base type of converters means the standard conversion, like naming
none.
-/

/-- A conversion of one value, with the label that messages show. -/
structure Converter where
  label : String
  apply : Value → Probe Value

/-- What a declaration names as a converter. -/
inductive ConverterEntry where
  /-- The base type of converters or an instance of it. -/
  | standard
  /-- A type of converters, and what making an instance of it without operands gives. -/
  | type (name : String) (instantiate : Except Failure Converter)
  /-- A converter. -/
  | converter (c : Converter)
  /-- A type that is no type of converters. -/
  | foreignType (name : String)
  /-- An object with a label of its own; `convert` and `call` are its conversions, if it has such
  members that can be called. -/
  | duck (label : String) (convert call : Option (Value → Probe Value))
  /-- A function with a name. -/
  | function (name : String) (apply : Value → Probe Value)
  /-- Any other value. -/
  | value (v : Value)

namespace Converter

/-- A converter made from something that can be called, which a name or its text stands for. -/
def adapted (label : String) (apply : Value → Probe Value) : Converter :=
  { label := "CallableMapper(" ++ label ++ ")", apply }

/-- What something to call is labelled with. -/
def calledLabel (v : Value) : String :=
  match Lookup.calledName? v with
  | some name => Text.quote name
  | none => v.shown

/-- The converter that calls a value. -/
def ofValue? (v : Value) : Option Converter :=
  (Lookup.call? v []).map fun _ =>
    adapted (calledLabel v) fun x => (Lookup.call? v [x]).getD (pure .none)

/-- The converter that calls an attribute. -/
def ofAttribute? : Attribute → Option Converter
  | .value v => ofValue? v
  | .method r receiver =>
    some (adapted (Text.quote r.name) fun x => Lookup.callRoutine r [receiver, x])
  | _ => none

/-- The `convert` member of a value, as a converter. -/
def ofMember? (v : Value) : Probe (Option Converter) := do
  match ← Lookup.attribute? v "convert" with
  | none => return none
  | some _ =>
    let found ← Lookup.readAttribute v "convert"
    match ofAttribute? found with
    | none => return none
    | some _ => return ofAttribute? (← Lookup.readAttribute v "convert")

end Converter

namespace ConverterEntry

/-- The failure of naming something that cannot convert. -/
def invalid (label : String) : Failure := .configuration (.invalidConverter label)

/-- The converter that a value names. -/
def converterOfValue (v : Value) : Probe (Option Converter) :=
  match v with
  | .none => pure none
  | .type b => throw (.configuration (.notConverterType b.name))
  | v => do
    if ← Lookup.tells v "type" then
      throw (.elementary .wrongType "issubclass() arg 1 must be a class")
    else
      -- asked again, whether it is a converter
      let _ ← Lookup.tells v "type"
      match ← Converter.ofMember? v with
      | some c => return some c
      | none =>
        match Converter.ofValue? v with
        | some c => return some c
        | none => throw (invalid v.shown)

/-- The converter that an entry names; `none` is the standard conversion. -/
def toConverter : ConverterEntry → Probe (Option Converter)
  | .standard => pure none
  | .type name instantiate =>
    match instantiate with
    | .ok c => pure (some c)
    | .error failure =>
      if failure.kind = .wrongType then
        throw (.configuration (.converterNeedsArguments name failure.toCause))
      else throw failure
  | .converter c => pure (some c)
  | .foreignType name => throw (.configuration (.notConverterType name))
  | .duck label convert call =>
    match convert, call with
    | some f, _ => pure (some (.adapted "'convert'" f))
    | none, some f => pure (some (.adapted label f))
    | none, none => throw (invalid label)
  | .function name apply => pure (some (.adapted (Text.quote name) apply))
  | .value v => converterOfValue v

end ConverterEntry
end BoundUpdate
