import BoundUpdate.Conversion.Converter
import BoundUpdate.Text.LetterCase
import BoundUpdate.Value.Position

namespace BoundUpdate
namespace Conversion

/-!
# Named converters

A catalogue of converters of every form that a declaration may use: types of
converters and instances of them, objects that convert without being
converters, and functions.
-/

/-- A conversion that may fail. -/
def ofExcept (f : Value → Except Failure Value) (v : Value) : Probe Value := Probe.ofExcept (f v)

/-- A byte in upper case, ASCII letters only. -/
def upperByte (b : UInt8) : UInt8 := if 97 ≤ b.toNat ∧ b.toNat ≤ 122 then b - 32 else b

/-- A text in upper case; objects answer by their own `upper` member. -/
def upperCase (v : Value) : Probe Value :=
  match v with
  | .bytes bs => pure (.bytes (bs.map upperByte))
  | v =>
    match v.text? with
    | some s => pure (.text (String.ofList (Text.upper s.toList)))
    | none => do
      match Lookup.callAttribute? (← Lookup.readAttribute v "upper") [] with
      | some call => call
      | none => throw (.elementary .wrongType
          ("'" ++ v.qualifiedTypeName ++ "' object is not callable"))

/-- Twice a length of time, unless it has too many days. -/
def twiceAsLong (microseconds : Int) : Except Failure Value :=
  let days := (Calendar.Span.ofMicroseconds (2 * microseconds)).days
  if Calendar.Span.greatestDays < days.natAbs then
    .error (.elementary .overflow ("days=" ++ Number.intText days ++
      "; must have magnitude <= " ++ Number.intText Calendar.Span.greatestDays))
  else .ok (.span (2 * microseconds))

/-- Twice a value: numbers are doubled, texts and sequences repeated. -/
def twice (v : Value) : Except Failure Value :=
  match v with
  | .float x => .ok (.float x.double)
  | .decimal d => Value.decimalResult d d.double?
  | .bytes bs => .ok (.bytes (bs ++ bs))
  | .list items => .ok (.list (items ++ items))
  | .tuple items => .ok (.tuple (items ++ items))
  | .record _ items => .ok (.tuple (items ++ items))
  | .span microseconds => twiceAsLong microseconds
  | v =>
    match v.text?, v.int? with
    | some s, _ => .ok (.text (s ++ s))
    | none, some n => .ok (.int (2 * n))
    | none, none => (v.askWith? "__mul__" 1).getD <| .error (.elementary .wrongType
        ("unsupported operand type(s) for *: '" ++ v.qualifiedTypeName ++ "' and 'int'"))

/-- A list of what the standard conversion gives. -/
def wrapped (v : Value) : Probe Value := do return .list [← standard v]

/-- A pair of a word and the value. -/
def tagged (word : String) (v : Value) : Probe Value := pure (.tuple [.text word, v])

/-- The converter that puts texts into upper case. -/
def upper : Converter := { label := "Upper()", apply := upperCase }

/-- The converter that rejects every value. -/
def rejecting : Converter :=
  { label := "Fail()", apply := fun _ => throw (.raised .invalidValue "cannot convert") }

/-- A converter with the standard conversion. -/
def inherited : Converter := { label := "Inherit()", apply := fun v => standard v }

/-- The converter that wraps the standard conversion into a list. -/
def wrapping : Converter := { label := "Wrap()", apply := wrapped }

/-- A converter with the standard conversion whose type needs an operand. -/
def needy : Converter := { label := "NeedsArg()", apply := fun v => standard v }

/-- The entries of the catalogue by name. -/
def entries : List (String × ConverterEntry) :=
  [("TypeMapper", .standard),
   ("TypeMapper()", .standard),
   ("Upper", .type "Upper" (.ok upper)),
   ("Upper()", .converter upper),
   ("Fail", .type "Fail" (.ok rejecting)),
   ("Fail()", .converter rejecting),
   ("Inherit", .type "Inherit" (.ok inherited)),
   ("Inherit()", .converter inherited),
   ("Wrap", .type "Wrap" (.ok wrapping)),
   ("Wrap()", .converter wrapping),
   ("NeedsArg", .type "NeedsArg" (.error (.elementary .wrongType
      (Routine.missingText "NeedsArg.__init__" ["x"])))),
   ("NeedsArg()", .converter needy),
   ("dict", .foreignType "dict"),
   ("object", .foreignType "object"),
   ("Duck", .foreignType "Duck"),
   ("Duck()", .duck "Duck()" (some (tagged "duck")) none),
   ("BadDuck()", .duck "BadDuck()" none none),
   ("CallDuck()", .duck "CallDuck()" none (some (tagged "called"))),
   ("len", .value .lengthFunction),
   ("double", .function "double" (ofExcept twice)),
   ("to_none", .function "to_none" fun _ => pure .none),
   ("interrupt", .function "interrupt" fun _ => throw (.raised .interrupt "stop")),
   ("boom", .function "boom" fun _ => throw (.raised .binding "inner boom"))]

/-- The entry of a name. -/
def entry? (name : String) : Option ConverterEntry := entries.lookup name

end Conversion
end BoundUpdate
