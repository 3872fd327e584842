import BoundUpdate.Annotation.Class
import BoundUpdate.Calendar.Reckoning
import BoundUpdate.Failure.Basic
import BoundUpdate.Number.Decimal
import BoundUpdate.Number.Shortest

namespace BoundUpdate

/-!
# Values

Arguments of a statement, settings read from files and answers of a driver are
dynamic values: scalars, containers and objects with members of their own.  An
object's members are described by data, so that reading one is a computation
inside the library: a routine gives a value, fails, counts its runs, answers
its own object or reads another attribute of it.

A member with a special name says how an object behaves where a value of
another type is expected: whether it counts as true, how long it is, how it is
written.
-/

/-- What running a routine does. -/
inductive Action (α : Type) where
  /-- Answer a fixed value. -/
  | give (value : α)
  /-- Fail with a text. -/
  | fail (kind : FailureKind) (text : String)
  /-- Answer 1, 2, 3, … on successive runs; the runs are counted in a cell. -/
  | count (cell : Nat)
  /-- Answer the object itself. -/
  | self
  /-- Read an attribute of the object. -/
  | read (field : String)

/-- A function, a method or the reader of a property. -/
structure Routine (α : Type) where
  name : String
  /-- The name that messages use, with the owner in front. -/
  title : String
  /-- Whether the first parameter is the object the routine is called on. -/
  receives : Bool
  /-- The required parameters after the object. -/
  parameters : List String
  action : Action α

/-- A member that all objects of a type share. -/
inductive Member (α : Type) where
  | value (v : α)
  | method (r : Routine α)
  /-- Read like a value, by running a routine. -/
  | property (r : Routine α)
  /-- A routine that does not receive the object. -/
  | static (r : Routine α)
  /-- A routine that receives the type. -/
  | classwide (r : Routine α)

/-- The type of an object. -/
structure Blueprint (α : Type) where
  name : String
  members : List (String × Member α)
  /-- Names of fields that exist on every object but may be unset. -/
  slots : List String
  /-- What calling an object of the type runs. -/
  call : Option (Routine α)

/-- What a member of an enumeration is besides a member. -/
inductive EnumBase where
  | plain
  | text
  | integer
  deriving DecidableEq, Repr

/-- A member of an enumeration. -/
structure EnumMember (α : Type) where
  enumeration : String
  name : String
  value : α
  base : EnumBase

/-- The type of tuples whose places have names. -/
structure RecordType where
  name : String
  /-- What failures of elementary operations put in front of the name. -/
  library : String
  places : List String
  deriving DecidableEq, Repr

/-- A dynamic value. -/
inductive Value where
  | none
  | bool (b : Bool)
  | int (n : Int)
  | float (x : Number.Binary64)
  | text (s : String)
  | bytes (bs : List UInt8)
  | list (items : List Value)
  | tuple (items : List Value)
  /-- A tuple whose places have names. -/
  | record (type : RecordType) (items : List Value)
  /-- An insertion ordered dictionary; no two keys are equal. -/
  | dict (entries : List (Value × Value))
  /-- A read-only mapping that is not a dictionary. -/
  | mapping (entries : List (Value × Value))
  | set (items : List Value)
  /-- The dictionary whose one entry `self` is the dictionary again. -/
  | selfDict
  | day (d : Calendar.Day)
  | moment (m : Calendar.Moment)
  /-- A length of time. -/
  | span (microseconds : Int)
  /-- A distance from universal time. -/
  | zone (microseconds : Int)
  | decimal (d : Number.Decimal)
  | enumMember (m : EnumMember Value)
  | function (r : Routine Value)
  /-- A method bound to some other object; it answers a fixed text. -/
  | boundMethod (name answer : String)
  /-- The function that measures a container. -/
  | lengthFunction
  | object (type : Blueprint Value) (fields : List (String × Value))
  | type (b : Blueprint Value)
  /-- A class of the language, or an operation of one. -/
  | meaning (m : Annotation.Meaning)
  /-- A value of which only the name of its type is known. -/
  | other (typeName : String)

instance : Inhabited Value := ⟨.none⟩

namespace Value

/-- Entries of a dictionary, in insertion order. -/
abbrev Entries := List (Value × Value)

/-- The name of a value's type. -/
def typeName : Value → String
  | .none => "NoneType"
  | .bool _ => "bool"
  | .int _ => "int"
  | .float _ => "float"
  | .text _ => "str"
  | .bytes _ => "bytes"
  | .list _ => "list"
  | .tuple _ => "tuple"
  | .record t _ => t.name
  | .dict _ => "dict"
  | .mapping _ => "FrozenMap"
  | .set _ => "set"
  | .selfDict => "dict"
  | .day _ => "date"
  | .moment _ => "datetime"
  | .span _ => "timedelta"
  | .zone _ => "timezone"
  | .decimal _ => "Decimal"
  | .enumMember m => m.enumeration
  | .function _ => "function"
  | .boundMethod .. => "method"
  | .lengthFunction => "builtin_function_or_method"
  | .object b _ => b.name
  | .type _ => "type"
  | .meaning m => m.typeName
  | .other name => name

/-- The name of a class that a value is. -/
def className? : Value → Option String
  | .type b => some b.name
  | .meaning m => if m.isClass then some m.className else Option.none
  | _ => Option.none

/-- The name of a value's type in failures of elementary operations, where types of the calendar
and decimal libraries carry their library's name. -/
def qualifiedTypeName : Value → String
  | .day _ => "datetime.date"
  | .moment _ => "datetime.datetime"
  | .span _ => "datetime.timedelta"
  | .zone _ => "datetime.timezone"
  | .record t _ => t.library ++ t.name
  | .decimal _ => "decimal.Decimal"
  | v => v.typeName

/-- The text that a value is: a text, or a member of a textual enumeration. -/
def text? : Value → Option String
  | .text s => some s
  | .enumMember { value := .text s, base := .text, .. } => some s
  | _ => Option.none

/-- The integer that a value is: an integer, a truth value, or a member of an integral
enumeration. -/
def int? : Value → Option Int
  | .int n => some n
  | .bool b => some (if b then 1 else 0)
  | .enumMember { value := .int n, base := .integer, .. } => some n
  | _ => Option.none

/-- Whether a value is a dictionary. -/
def isDict : Value → Bool
  | .dict _ => true
  | .selfDict => true
  | _ => false

/-- The items of a list or tuple. -/
def sequence? : Value → Option (List Value)
  | .list items => some items
  | .tuple items => some items
  | .record _ items => some items
  | _ => Option.none

/-- The entries of a dictionary or mapping. -/
def entries? : Value → Option Entries
  | .dict entries => some entries
  | .mapping entries => some entries
  | .selfDict => some [(.text "self", .selfDict)]
  | _ => Option.none

mutual

/-- Whether the lists and dictionaries of a value lie in each other on some levels at most. -/
def nestsWithin : Value → (levels : Nat) → Bool
  | .list _, 0 => false
  | .list items, n + 1 => itemsNestWithin items n
  | .dict _, 0 => false
  | .dict entries, n + 1 => entriesNestWithin entries n
  | .selfDict, _ => false
  | _, _ => true

/-- Whether the lists and dictionaries of some values lie in each other on some levels at most. -/
def itemsNestWithin : List Value → (levels : Nat) → Bool
  | [], _ => true
  | v :: rest, n => v.nestsWithin n && itemsNestWithin rest n

/-- Whether the lists and dictionaries of the values of some entries lie in each other on some
levels at most. -/
def entriesNestWithin : List (Value × Value) → (levels : Nat) → Bool
  | [], _ => true
  | (_, v) :: rest, n => v.nestsWithin n && entriesNestWithin rest n

end

/-- The outcome of a special member of an object that is asked for the first time and given a
number of operands. -/
def askWith? (v : Value) (special : String) (operands : Nat) : Option (Except Failure Value) :=
  match v with
  | .object b fields =>
    let outcome := fun (r : Routine Value) =>
      if r.parameters.length = operands then
        match r.action with
        | .give answer => .ok answer
        | .fail kind wording => .error (.raised kind wording)
        | .count _ => .ok (.int 1)
        | .self => .ok v
        | .read field =>
          match fields.lookup field with
          | some answer => .ok answer
          | Option.none => .error (.elementary .missingAttribute field)
      else .error (.elementary .wrongType (special ++ "() takes other operands"))
    match b.members.lookup special with
    | some (.method r) => some (outcome r)
    | some (.static r) => some (outcome r)
    | some (.classwide r) => some (outcome r)
    | some _ => some (.error (.elementary .wrongType (special ++ " is not callable")))
    | Option.none => Option.none
  | _ => Option.none

/-- The outcome of a special member of an object that needs no operands. -/
def ask? (v : Value) (special : String) : Option (Except Failure Value) := v.askWith? special 0

/-- The number of items that a value tells as an answer. -/
def asCount (answer : Value) : Except Failure Nat :=
  match answer.int? with
  | some n =>
    if n < 0 then .error (.elementary .invalidValue "__len__() should return >= 0") else .ok n.toNat
  | Option.none => .error (.elementary .wrongType
      ("'" ++ answer.qualifiedTypeName ++ "' object cannot be interpreted as an integer"))

/-- Whether an object counts as true: as its type says, or else unless it is empty. -/
def objectTruth (v : Value) : Except Failure Bool :=
  match v.ask? "__bool__", v.ask? "__len__" with
  | some (.error failure), _ => .error failure
  | some (.ok (.bool b)), _ => .ok b
  | some (.ok answer), _ => .error (.elementary .wrongType
      ("__bool__ should return bool, returned " ++ answer.typeName))
  | Option.none, some told => told.bind fun answer => answer.asCount.map (· != 0)
  | Option.none, Option.none => .ok true

/-- Whether a value counts as true; an object that refuses to tell does. -/
def isTruthy : Value → Bool
  | .none => false
  | .bool b => b
  | .int n => n != 0
  | .float x => !x.isZero
  | .text s => !s.isEmpty
  | .bytes bs => !bs.isEmpty
  | .list items => !items.isEmpty
  | .tuple items => !items.isEmpty
  | .record _ items => !items.isEmpty
  | .span microseconds => microseconds != 0
  | .dict entries => !entries.isEmpty
  | .mapping entries => !entries.isEmpty
  | .set items => !items.isEmpty
  | .decimal d => !d.isZero
  | .enumMember { value := .text s, base := .text, .. } => !s.isEmpty
  | .enumMember { value := .int n, base := .integer, .. } => n != 0
  | .object b fields => (objectTruth (.object b fields)).toOption.getD true
  | _ => true

/-- Whether a value counts as true, or the failure of an object that refuses to tell. -/
def truth (v : Value) : Except Failure Bool :=
  match v with
  | .object b fields => objectTruth (.object b fields)
  | v => .ok v.isTruthy

@[simp]
theorem truth_none : Value.none.truth = .ok false := rfl

@[simp]
theorem truth_text (s : String) : (Value.text s).truth = .ok !s.isEmpty := rfl

@[simp]
theorem truth_bool (b : Bool) : (Value.bool b).truth = .ok b := rfl

/-- A value that tells whether it counts as true does so for good. -/
theorem isTruthy_of_truth {v : Value} {b : Bool} (h : v.truth = .ok b) : v.isTruthy = b := by
  unfold truth at h
  split at h
  · next type fields =>
    rw [isTruthy, h]
    rfl
  · exact Except.ok.inj h

/-- A value that counts as true, or else another one. -/
def orElse (v other : Value) : Except Failure Value := do
  if ← v.truth then return v else return other

/-- The characters of a text as texts of length one. -/
def characters (s : String) : List Value := s.toList.map fun c => .text (String.ofList [c])

/-- What running through a value yields; `none` when a value cannot be run through. -/
def items? (v : Value) : Option (List Value) :=
  match v with
  | .list items => some items
  | .tuple items => some items
  | .record _ items => some items
  | .set items => some items
  | .bytes bs => some (bs.map fun b => .int b.toNat)
  | .dict entries => some (entries.map Prod.fst)
  | .mapping entries => some (entries.map Prod.fst)
  | .selfDict => some [.text "self"]
  | _ => v.text?.map characters

/-- The number of items that a container holds or tells. -/
def count (v : Value) : Except Failure Nat :=
  match v.ask? "__len__", v.items? with
  | some told, _ => told.bind asCount
  | Option.none, some items => .ok items.length
  | Option.none, Option.none => .error (.elementary .wrongType
      ("object of type '" ++ v.qualifiedTypeName ++ "' has no len()"))

@[simp]
theorem count_list (items : List Value) : (Value.list items).count = .ok items.length := rfl

@[simp]
theorem count_tuple (items : List Value) : (Value.tuple items).count = .ok items.length := rfl

@[simp]
theorem text?_text (s : String) : (Value.text s).text? = some s := rfl

@[simp]
theorem sequence?_list (items : List Value) : (Value.list items).sequence? = some items := rfl

@[simp]
theorem sequence?_tuple (items : List Value) : (Value.tuple items).sequence? = some items := rfl

end Value
end BoundUpdate
