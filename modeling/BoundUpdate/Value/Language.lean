import BoundUpdate.Annotation.Members
import BoundUpdate.Value.Basic

namespace BoundUpdate
namespace Value

/-!
# Values of the language

Elementary values and containers are values of the language, which knows the
members of their classes.  Values of other classes stand for themselves with
the name of their class only.
-/

open Annotation (Meaning)

/-- The class of a value of the calendar, of a decimal or of a function. -/
def foreignClass? : Value → Option String
  | .day _ => some "datetime.date"
  | .moment _ => some "datetime.datetime"
  | .span _ => some "datetime.timedelta"
  | .zone _ => some "datetime.timezone"
  | .decimal _ => some "decimal.Decimal"
  | .function _ => some "function"
  | .boundMethod .. => some "method"
  | .other name => some name
  | _ => Option.none

/-- A type as a class of the language, without its members. -/
def classOfBlueprint (b : Blueprint Value) : Meaning := .made b.name [] []

/-- The class of the language that a member of an enumeration extends. -/
def enumClass (m : EnumMember Value) : Meaning :=
  .made m.enumeration
    (match m.base with
      | .plain => []
      | .text => [.type "str"]
      | .integer => [.type "int"]) []

mutual

/-- What a value is in the language. -/
def toMeaning : Value → Meaning
  | .none => .nothing
  | .bool b => .truth b
  | .int n => .integer n
  | .float x => .real x
  | .text s => .text s
  | .bytes bs => .bytes bs false
  | .list items => .list (toMeanings items)
  | .tuple items => .tuple (toMeanings items)
  | .record _ items => .tuple (toMeanings items)
  | .set items => .set (toMeanings items) false
  | .dict entries => .dict "dict" (toMeaningEntries entries)
  | .selfDict => .dict "dict" [(.text "self", .unknown)]
  | .meaning m => m
  | .type b => classOfBlueprint b
  | .object b _ => .object (classOfBlueprint b) []
  | .enumMember m => .object (enumClass m) []
  | .lengthFunction => .routine "len"
  | v => .object (.type ((foreignClass? v).getD "object")) []

/-- What values are in the language. -/
def toMeanings : List Value → List Meaning
  | [] => []
  | v :: rest => toMeaning v :: toMeanings rest

/-- What keys and values are in the language. -/
def toMeaningEntries : List (Value × Value) → List (Meaning × Meaning)
  | [] => []
  | (k, v) :: rest => (toMeaning k, toMeaning v) :: toMeaningEntries rest

end

mutual

/-- The value that something of the language is. -/
def ofMeaning : Meaning → Value
  | .nothing => .none
  | .truth b => .bool b
  | .integer n => .int n
  | .real x => .float x
  | .text s => .text s
  | .bytes bs false => .bytes bs
  | .list items => .list (ofMeanings items)
  | .tuple items => .tuple (ofMeanings items)
  | .set items false => .set (ofMeanings items)
  | .dict "dict" entries => .dict (ofMeaningEntries entries)
  | m => .meaning m

/-- The values that items of the language are. -/
def ofMeanings : List Meaning → List Value
  | [] => []
  | m :: rest => ofMeaning m :: ofMeanings rest

/-- The entries that keys and values of the language are. -/
def ofMeaningEntries : List (Meaning × Meaning) → List (Value × Value)
  | [] => []
  | (k, v) :: rest => (ofMeaning k, ofMeaning v) :: ofMeaningEntries rest

end

@[simp]
theorem ofMeaning_toMeaning_text (s : String) : ofMeaning (toMeaning (.text s)) = .text s := by
  simp [toMeaning, ofMeaning]

@[simp]
theorem ofMeaning_toMeaning_int (n : Int) : ofMeaning (toMeaning (.int n)) = .int n := by
  simp [toMeaning, ofMeaning]

end Value
end BoundUpdate
