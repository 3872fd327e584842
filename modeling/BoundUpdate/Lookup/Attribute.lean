import BoundUpdate.Activity.Basic
import BoundUpdate.Annotation.Evaluation
import BoundUpdate.Lookup.Description
import BoundUpdate.Lookup.Operation

namespace BoundUpdate

/-!
# Attributes and calls

An attribute of a value is a plain value, a method bound to the value or an
operation that is built into the value's type.  Reading one may run code: the
reader of a property, or the special member of a type that stands in for
attributes that are not there.  Such readers may read further attributes; a
chain of them is followed as often as the object has members.
-/

/-- What reading an attribute finds. -/
inductive Attribute where
  | value (v : Value)
  /-- A method together with the value it was read from. -/
  | method (routine : Routine Value) (receiver : Value)
  /-- A routine that the library of a value's type defines. -/
  | routine (receiver : Value) (name : String)
  /-- An operation that is built into a value's type. -/
  | native (receiver : Value) (name : String)
  /-- A value that is called as an operation of another value. -/
  | callable (v : Value) (receiver : Value) (name : String)

namespace Attribute

/-- An attribute as a value. -/
def toValue : Attribute → Value
  | .value v => v
  | .method .. => .other "method"
  | .routine .. => .other "method"
  | .native .. => .lengthFunction
  | .callable v .. => v

/-- The field that an attribute is: bound methods and built-in operations are no fields. -/
def field? : Attribute → Option Value
  | .value (.boundMethod ..) => none
  | .value .lengthFunction => none
  | .value v => some v
  | .method .. => none
  | .routine .. => none
  | .native .. => none
  | .callable v .. => some v

end Attribute

namespace Lookup

/-- The failure of reading an attribute that does not exist. -/
def missingAttribute (v : Value) (name : String) : Failure :=
  let owner := match v with
    | .type b => "type object '" ++ b.name ++ "'"
    | v => "'" ++ v.qualifiedTypeName ++ "' object"
  .elementary .missingAttribute (owner ++ " has no attribute '" ++ name ++ "'")

/-- Attributes of integers and truth values. -/
def integerAttribute? (n : Int) : String → Option Value
  | "real" => some (.int n)
  | "imag" => some (.int 0)
  | "numerator" => some (.int n)
  | "denominator" => some (.int 1)
  | _ => none

/-- Attributes of days. -/
def dayAttribute? (d : Calendar.Day) : String → Option Value
  | "year" => some (.int d.year)
  | "month" => some (.int d.month)
  | "day" => some (.int d.day)
  | "min" => some (.day ⟨1, 1, 1⟩)
  | "max" => some (.day ⟨9999, 12, 31⟩)
  | "resolution" => some (.span Calendar.perDay)
  | _ => none

/-- Attributes of moments. -/
def momentAttribute? (m : Calendar.Moment) : String → Option Value
  | "hour" => some (.int m.hour)
  | "minute" => some (.int m.minute)
  | "second" => some (.int m.second)
  | "microsecond" => some (.int m.microsecond)
  | "fold" => some (.int 0)
  | "tzinfo" => some ((m.offset.map Value.zone).getD .none)
  | "resolution" => some (.span 1)
  | "min" => some (.moment ⟨⟨1, 1, 1⟩, 0, 0, 0, 0, none⟩)
  | "max" => some (.moment ⟨⟨9999, 12, 31⟩, 23, 59, 59, 999999, none⟩)
  | name => dayAttribute? m.date name

/-- Attributes of lengths of time. -/
def spanAttribute? (n : Int) : String → Option Value
  | "days" => some (.int (Calendar.Span.ofMicroseconds n).days)
  | "seconds" => some (.int (Calendar.Span.ofMicroseconds n).seconds)
  | "microseconds" => some (.int (Calendar.Span.ofMicroseconds n).microseconds)
  | "min" => some (.span Calendar.Span.least)
  | "max" => some (.span Calendar.Span.greatest)
  | "resolution" => some (.span 1)
  | _ => none

/-- Attributes of distances from universal time. -/
def zoneAttribute? : String → Option Value
  | "utc" => some (.zone 0)
  | "min" => some (.zone (-Calendar.greatestOffset))
  | "max" => some (.zone Calendar.greatestOffset)
  | _ => none

/-- Attributes of tuples whose places have names, besides the places. -/
def recordAttribute? (t : RecordType) (name : String) : Option Value :=
  let places := Value.tuple (t.places.map Value.text)
  let isNamedTuple := t.library.isEmpty
  if name = "__class__" then
    some (.type { name := t.name, members := [], slots := [], call := none })
  else if isNamedTuple ∧ (name = "_fields" ∨ name = "__match_args__") then some places
  else if isNamedTuple ∧ name = "_field_defaults" then some (.dict [])
  else if isNamedTuple ∧ name = "__slots__" then some (.tuple [])
  else if t ≠ calendarParts then none
  else if name = "__match_args__" then some places
  else if name = "n_fields" then some (.int (t.places.length + 2))
  else if name = "n_sequence_fields" then some (.int t.places.length)
  else if name = "n_unnamed_fields" then some (.int 0)
  else if name = "tm_zone" ∨ name = "tm_gmtoff" then some .none
  else none

/-- The attribute that the language gives every value of a class. -/
def languageAttribute? (v : Value) (name : String) : Option Attribute :=
  match Annotation.Meaning.memberOf v.toMeaning name with
  | .ok (.method receiver given) =>
    let m : Annotation.Meaning := .method receiver given
    some (if m.isA "method-wrapper" then .callable (.meaning m) v name else .native v name)
  | .ok (.unbound kind given) =>
    let found := Value.meaning (.unbound kind given)
    some (.callable found found "__call__")
  | .ok m =>
    some (if name = "__class__" then .callable (.ofMeaning m) v name else .value (.ofMeaning m))
  | .error _ => none

/-- The routines that the library of enumerations defines for members. -/
def enumRoutines : List String :=
  ["__repr__", "__str__", "__init__", "__format__", "__dir__", "__reduce_ex__", "__new__",
   "_generate_next_value_", "_missing_"]

/-- What an enumeration with one member keeps about its members: their names, their values, the
values that cannot be looked up, and what they are besides members. -/
def enumRegister (m : EnumMember Value) : List (String × Value) :=
  let member := Value.enumMember m
  let isKey := m.value.keyFault?.isNone
  let kind := match m.base with
    | .plain => "object"
    | .text => "str"
    | .integer => "int"
  [("_member_names_", .list [.text m.name]),
   ("_member_map_", .dict [(.text m.name, member)]),
   ("_value2member_map_", .dict (if isKey then [(m.value, member)] else [])),
   ("_unhashable_values_", .list (if isKey then [] else [m.value])),
   ("_member_type_", .ofMeaning (.type kind)),
   ("_use_args_", .bool (m.base != .plain)),
   ("_value_repr_", .none)]

/-- The library that types, functions and objects of programs belong to. -/
def programLibrary : Value := .text "__main__"

/-- Attributes of members of enumerations that the enumeration gives. -/
def enumAttribute? (m : EnumMember Value) (name : String) : Option Attribute :=
  let member := Value.enumMember m
  if name = "__class__" ∨ name = "__objclass__" then
    some (.callable (enumType m) member "__class__")
  else if enumRoutines.contains name then some (.routine member name)
  else if name = "_new_member_" then some (.native member name)
  else if name = "_value_repr_" ∧ m.base ≠ .plain then
    some (.callable (.other "method-wrapper") member name)
  else if name = "_sort_order_" then some (.value (.int 0))
  else if name = "__module__" then some (.value programLibrary)
  else if let some kept := (enumRegister m).lookup name then some (.value kept)
  else if name = "__doc__" ∨ name = "__weakref__" ∧ m.base ≠ .integer then some (.value .none)
  else if name = "__dict__" then some (.value (enumFields m))
  else if name = "__hash__" ∧ m.base = .plain then none
  else languageAttribute? member name

/-- Attributes of functions. -/
def functionAttribute? (given : String) (name : String) : Option Value :=
  if name = "__name__" ∨ name = "__qualname__" then some (.text given)
  else if ["__closure__", "__defaults__", "__kwdefaults__", "__doc__"].contains name then some .none
  else if ["__annotations__", "__dict__"].contains name then some (.dict [])
  else if name = "__code__" then some (.other "code")
  else if name = "__module__" then some programLibrary
  else none

/-- The routines of a mapping that is not a dictionary. -/
def mappingRoutines : List String :=
  ["get", "items", "keys", "values", "__class__", "__class_getitem__", "__contains__", "__eq__",
   "__getitem__", "__init__", "__iter__", "__len__"]

/-- Attributes of values other than objects and types that their own kind gives. -/
def ownAttribute? (v : Value) (name : String) : Option Attribute :=
  match v with
  | .bool b => (integerAttribute? (if b then 1 else 0) name).map .value
  | .int n => (integerAttribute? n name).map .value
  | .float _ =>
    match name with
    | "real" => some (.value v)
    | "imag" => some (.value (.float (.zero false)))
    | _ => none
  | .decimal _ =>
    match name with
    | "real" => some (.value v)
    | "imag" => some (.value (.decimal (.finite false 0 0)))
    | _ => none
  | .day d => (dayAttribute? d name).map .value
  | .moment m => (momentAttribute? m name).map .value
  | .span n => (spanAttribute? n name).map .value
  | .zone _ => (zoneAttribute? name).map .value
  | .record t items =>
    ((t.places.zip items).lookup name <|> recordAttribute? t name).map .value
  | .enumMember m =>
    if name = "name" ∨ name = "_name_" then some (.value (.text m.name))
    else if name = "value" ∨ name = "_value_" then some (.value m.value)
    else if name = m.name then some (.value v)
    else match m.base, m.value with
      | .integer, .int n => (integerAttribute? n name).map .value <|> enumAttribute? m name
      | _, _ => enumAttribute? m name
  | .function r => (functionAttribute? r.name name).map .value
  | .boundMethod given answer =>
    let routine : Routine Value :=
      { name := given, title := given, receives := true, parameters := [],
        action := .give (.text answer) }
    if name = "__func__" then some (.value (.function routine))
    else if name = "__qualname__" then none
    else (functionAttribute? given name).map .value
  | .mapping entries =>
    match name with
    | "_d" => some (.value (.dict entries))
    | _ => if mappingRoutines.contains name then some (.routine v name) else none
  | _ => none

/-- Attributes of values other than objects and types. -/
def nativeAttribute? (v : Value) (name : String) : Option Attribute :=
  match v with
  | .enumMember _ => ownAttribute? v name
  | v =>
    match if name = "__doc__" then descriptionOf? v else none with
    | some text => some (.value text)
    | none => ownAttribute? v name <|> languageAttribute? v name

/-- What a member of a type is when it is read from the type itself. -/
def memberOfType (b : Blueprint Value) : Member Value → Attribute
  | .value v => .value v
  | .method r => .value (.function r)
  | .property _ => .value (.other "property")
  | .static r => .value (.function r)
  | .classwide r => .method r (.type b)

/-- The attribute of a type. -/
def typeAttribute? (b : Blueprint Value) (name : String) : Option Attribute :=
  match b.members.lookup name with
  | some m => some (memberOfType b m)
  | none =>
    if b.slots.contains name then some (.value (.other "member_descriptor"))
    else if name = "__module__" then some (.value programLibrary)
    else if name = "__weakref__" ∧ b.slots.isEmpty then some (.value (.other "getset_descriptor"))
    else languageAttribute? (.type b) name

/-- What a member of an object's type is when it is read from the object; a property is not
decided here. -/
def memberOfObject (b : Blueprint Value) (self : Value) : Member Value → Attribute
  | .value (.function r) => .method r self
  | .value v => .value v
  | .method r => .method r self
  | .property r => .method r self
  | .static r => .value (.function r)
  | .classwide r => .method r (.type b)

/-- Do what a routine does for an object, given how attributes of the object are read. -/
def perform (read : String → Probe Value) (self : Value) : Action Value → Probe Value
  | .give v => pure v
  | .fail kind text => throw (.raised kind text)
  | .count cell => do return .int (← Probe.countRun cell)
  | .self => pure self
  | .read field => read field

/-- Attributes that every object has. -/
def commonAttribute? (b : Blueprint Value) (fields : List (String × Value)) (name : String) :
    Option Attribute :=
  if name = "__class__" then some (.value (.type b))
  else if name = "__slots__" then
    if b.slots.isEmpty then none else some (.value (.list (b.slots.map Value.text)))
  else if name = "__dict__" then
    if b.slots.isEmpty then some (.value (.dict (fields.map fun (name, v) => (.text name, v))))
    else none
  else if name = "__weakref__" ∧ b.slots.isEmpty then some (.value .none)
  else if name = "__module__" then some (.value programLibrary)
  else languageAttribute? (.object b fields) name

/-- The special member of a type that a name and an object are given to. -/
def special? (b : Blueprint Value) (name : String) : Option (Routine Value) :=
  match b.members.lookup name with
  | some (.method r) => some r
  | _ => none

/-- The attribute of an object; `fuel` bounds the length of a chain of readers. -/
def objectAttribute (b : Blueprint Value) (fields : List (String × Value)) :
    (fuel : Nat) → String → Probe Attribute
  | 0, _ => throw (.elementary .recursion "maximum recursion depth exceeded")
  | fuel + 1, name =>
    let self := Value.object b fields
    let run := fun (r : Routine Value) (operands : List Value) => do
      Probe.ofExcept (r.checkOperands operands.length)
      let read := fun field => do return (← objectAttribute b fields fuel field).toValue
      return Attribute.value (← perform read self r.action)
    let own : Probe Attribute :=
      match b.members.lookup name with
      | some (.property r) => run r [self]
      | member =>
        match fields.lookup name, member, commonAttribute? b fields name with
        | some v, _, _ => pure (.value v)
        | none, some m, _ => pure (memberOfObject b self m)
        | none, none, some a => pure a
        | none, none, none => throw (missingAttribute self name)
    let found := match special? b "__getattribute__" with
      | some r => run r [self, .text name]
      | none => own
    match special? b "__getattr__" with
    | none => found
    | some r => do
      match ← found.attempt with
      | .ok a => return a
      | .error failure =>
        if failure.kind = .missingAttribute then run r [self, .text name] else throw failure

/-- Read an attribute. -/
def readAttribute (v : Value) (name : String) : Probe Attribute :=
  match v with
  | .object b fields => objectAttribute b fields (b.members.length + 2) name
  | .type b =>
    match typeAttribute? b name with
    | some a => pure a
    | none => throw (missingAttribute v name)
  | v =>
    match nativeAttribute? v name with
    | some a => pure a
    | none => throw (missingAttribute v name)

/-- Run a routine with operands; the first one is the value it is called on. -/
def callRoutine (r : Routine Value) (operands : List Value) : Probe Value := do
  Probe.ofExcept (r.checkOperands operands.length)
  let self := operands.headD .none
  perform (fun field => do return (← readAttribute self field).toValue) self r.action

/-- Calling a value with operands, if it can be called. -/
def call? (v : Value) (operands : List Value) : Option (Probe Value) :=
  match v with
  | .function r => some (callRoutine r operands)
  | .boundMethod name answer =>
    some (match operands with
      | [] => pure (.text answer)
      | _ => throw (.elementary .wrongType
          (Routine.surplusText name 1 (operands.length + 1))))
  | .lengthFunction =>
    some (match operands with
      | [v] => do return .int (← Probe.ofExcept v.count)
      | _ => throw (.elementary .wrongType
          ("len() takes exactly one argument (" ++ Number.natText operands.length ++ " given)")))
  | .type b =>
    some (match operands with
      | [] => pure (.object b [])
      | _ => throw (.elementary .wrongType (b.name ++ "() takes no arguments")))
  | .object b fields =>
    (b.call <|> special? b "__call__").map fun r => callRoutine r (.object b fields :: operands)
  | .meaning m =>
    if m.isClass && operands.isEmpty then some (Probe.ofExcept (ofNothing m)) else none
  | _ => none

/-- Calling an attribute with operands, if it can be called. -/
def callAttribute? (a : Attribute) (operands : List Value) : Option (Probe Value) :=
  match a with
  | .value v => call? v operands
  | .method r receiver => some (callRoutine r (receiver :: operands))
  | .routine v name => some (Probe.ofExcept (operation v name))
  | .native v name => some (Probe.ofExcept (operation v name))
  | .callable _ v name =>
    match if name = "__call__" then call? v operands else none with
    | some outcome => some outcome
    | none => some (Probe.ofExcept (operation v name))

/-- The outcome of a special member of a value with operands, if it is an object whose type has the
member: fields of the object itself do not count. -/
def askSpecial? (v : Value) (special : String) (operands : List Value) : Option (Probe Value) :=
  match v with
  | .object b _ =>
    (b.members.lookup special).map fun m =>
      (callAttribute? (memberOfObject b v m) operands).getD
        (throw (.elementary .wrongType (special ++ " is not callable")))
  | _ => none

/-- The outcome of calling an attribute of a value with operands. -/
def ask (v : Value) (name : String) (operands : List Value) : Probe Value := do
  match callAttribute? (← readAttribute v name) operands with
  | some call => call
  | none => throw (.elementary .wrongType
      ("'" ++ (← readAttribute v name).toValue.qualifiedTypeName ++ "' object is not callable"))

/-- The outcome of a probe that a missing attribute does not fail. -/
def unlessMissing {α : Type} (x : Probe α) : Probe (Option α) := do
  match ← x.attempt with
  | .ok a => return some a
  | .error failure =>
    if failure.kind = .missingAttribute then return none else throw failure

/-!
## The class of a value

A value is asked for its class before it is handled as an instance of one.  An
object tells its class itself when its type has a member for that, and is then
taken for an instance of the class that it tells.
-/

/-- Whether a value tells its class itself. -/
def tellsClass : Value → Bool
  | .object b _ =>
    (special? b "__getattribute__").isSome || (b.members.lookup "__class__").isSome
  | _ => false

/-- The class of enumerations. -/
def enumerationClass : String := "enum.Enum"

/-- Whether a value is an enumeration, which has members of itself. -/
def isEnumeration (b : Blueprint Value) : Bool :=
  b.members.any fun entry =>
    match entry.2 with
    | .value (.enumMember m) => m.enumeration == b.name
    | _ => false

/-- Whether a value is a class that descends from another one. -/
def isBelow (told : Value) (wanted : String) : Bool :=
  match told with
  | .meaning m => m.isClass && m.isBelow wanted
  | .type b => wanted == enumerationClass && isEnumeration b
  | _ => false

/-- Whether a value tells that it is an instance of a class; one that cannot tell is none. -/
def tells (v : Value) (wanted : String) : Probe Bool :=
  if tellsClass v then do
    match ← unlessMissing (readAttribute v "__class__") with
    | some told => return isBelow told.toValue wanted
    | none => return false
  else pure false

/-- Whether a value tells that it is a list or a tuple. -/
def tellsSequence (v : Value) : Probe Bool := do
  if ← tells v "list" then return true else tells v "tuple"

/-- Whether a value tells that it is a mapping; what it tells must be a class. -/
def tellsMapping (v : Value) : Probe Bool :=
  if tellsClass v then do
    let told := (← readAttribute v "__class__").toValue
    if told.className?.isSome then return isBelow told "collections.abc.Mapping"
    else throw (.elementary .wrongType "issubclass() arg 1 must be a class")
  else pure false

/-- The outcome of a probe before anything has run. -/
def firstOutcome {α : Type} (x : Probe α) : Except Failure α := (x.runOn fun _ => 0).1

/-- The name that a value goes by when it can be called; objects have none. -/
def calledName? : Value → Option String
  | .function r => some r.name
  | .boundMethod name _ => some name
  | .lengthFunction => some "len"
  | .type b => some b.name
  | _ => none

end Lookup
end BoundUpdate
