import BoundUpdate.Annotation.Evaluation
import BoundUpdate.Lookup.Shortage
import BoundUpdate.Number.Decimal.Functions
import BoundUpdate.Value.Integral
import BoundUpdate.Value.Order

namespace BoundUpdate
namespace Lookup

/-!
# Operations without operands

An accessor may be an operation that is built into the type of a value: a
decimal has its engineering notation, a day its week.  What such an operation
gives is decided by the value alone.  Operations of elementary values and
containers are those of the language; an operation that needs operands refuses
the call.
-/

/-- What an operation gives. -/
abbrev Outcome := Except Failure Value

/-! ## Decimals -/

/-- The sign, the digits and the exponent of a decimal. -/
def decimalParts : RecordType :=
  { name := "DecimalTuple", library := "", places := ["sign", "digits", "exponent"] }

/-- The parts of a decimal; a word stands for the exponent of one that is not finite. -/
def partsOf (d : Number.Decimal) : Value :=
  let parts := fun (digits : List Nat) (exponent : Value) =>
    Value.record decimalParts
      [.int (if d.isNegative then 1 else 0), .tuple (digits.map fun (n : Nat) => .int n), exponent]
  match d with
  | .finite _ coefficient exponent => parts (Number.digits coefficient) (.int exponent)
  | .infinity _ => parts [0] (.text "F")
  | .nan _ signaling payload =>
    parts (if payload = 0 then [] else Number.digits payload)
      (.text (if signaling then "N" else "n"))

/-- The result of arithmetic with a decimal. -/
def ofArithmetic (result : Except Number.Decimal.Fault Number.Decimal) : Outcome :=
  match result with
  | .ok d => .ok (.decimal d)
  | .error fault => .error (Value.decimalFailure fault.name)

/-- What a decimal that is not finite cannot be converted to. -/
def notConverted (d : Number.Decimal) (goal : String) : Failure :=
  match d with
  | .infinity _ => .elementary .overflow ("cannot convert Infinity to " ++ goal)
  | _ => .elementary .invalidValue ("cannot convert NaN to " ++ goal)

/-- An integer near a decimal. -/
def wholeOf (d : Number.Decimal) (round : Int → Nat → Int) : Outcome :=
  match d.coarse.ratio? with
  | some (n, den) => .ok (.int (round n den))
  | none => .error (notConverted d "integer")

/-- A decimal as a quotient in lowest terms. -/
def quotientOf (d : Number.Decimal) : Outcome :=
  match d.ratio? with
  | some (n, den) =>
    let common := Nat.gcd n.natAbs den
    .ok (.tuple [.int (n / common), .int (den / common)])
  | none => .error (notConverted d "integer ratio")

/-- A decimal as a number of 64 bits. -/
def realOf (d : Number.Decimal) : Except Failure Number.Binary64 :=
  match d.toBinary64? with
  | some x => .ok x
  | none => .error (.elementary .invalidValue "cannot convert signaling NaN to float")

/-- The number facts that a decimal tells about itself. -/
def decimalFact? (d : Number.Decimal) : String → Option Bool
  | "is_finite" => some (match d with | .finite .. => true | _ => false)
  | "is_infinite" => some (match d with | .infinity _ => true | _ => false)
  | "is_nan" => some d.isNaN
  | "is_qnan" => some (d.isNaN && !d.isSignaling)
  | "is_snan" => some d.isSignaling
  | "is_signed" => some d.isNegative
  | "is_zero" => some d.isZero
  | "is_normal" => some d.isNormal
  | "is_subnormal" => some d.isSubnormal
  | "is_canonical" => some true
  | "__bool__" => some !d.isZero
  | _ => none

/-- The arithmetic of one decimal. -/
def decimalArithmetic? (d : Number.Decimal) :
    String → Option (Except Number.Decimal.Fault Number.Decimal)
  | "exp" => some d.exponential
  | "ln" => some d.logarithm
  | "log10" => some d.decimalLogarithm
  | "logb" => some d.exponentOf
  | "logical_invert" => some d.digitwiseNot
  | "next_minus" => some d.previous
  | "next_plus" => some d.next
  | "normalize" => some d.normalized
  | "sqrt" => some d.squareRoot
  | "to_integral" => some d.toIntegral
  | "to_integral_exact" => some d.toIntegral
  | "to_integral_value" => some d.toIntegral
  | "__abs__" => some d.magnitude
  | "__neg__" => some d.negated
  | "__pos__" => some d.asSum
  | _ => none

/-- The operations of a decimal that cannot fail or that leave the decimals. -/
def decimalConversion? (d : Number.Decimal) : String → Option Outcome
  | "adjusted" => some (.ok (.int d.leadingExponent))
  | "as_integer_ratio" => some (quotientOf d)
  | "as_tuple" => some (.ok (partsOf d))
  | "canonical" => some (.ok (.decimal d))
  | "conjugate" => some (.ok (.decimal d))
  | "copy_abs" => some (.ok (.decimal d.unsigned))
  | "copy_negate" => some (.ok (.decimal d.flipped))
  | "number_class" => some (.ok (.text d.className))
  | "radix" => some (.ok (.decimal (.ofInt 10)))
  | "to_eng_string" => some (.ok (.text (d.written true)))
  | "__ceil__" => some (wholeOf d fun n den => -((-n).fdiv den))
  | "__complex__" => some ((realOf d).map fun x => .meaning (.complex x (.zero false)))
  | "__copy__" => some (.ok (.decimal d))
  | "__float__" => some ((realOf d).map Value.float)
  | "__floor__" => some (wholeOf d fun n den => n.fdiv den)
  | "__int__" => some (wholeOf d fun n den => n.tdiv den)
  | "__round__" => some (wholeOf d Annotation.Meaning.nearest)
  | "__trunc__" => some (wholeOf d fun n den => n.tdiv den)
  | _ => none

/-- The outcome of an operation of a decimal. -/
def decimalOperation? (d : Number.Decimal) (name : String) : Option Outcome :=
  (decimalFact? d name).map (fun b => .ok (.bool b)) <|>
    (decimalArithmetic? d name).map ofArithmetic <|> decimalConversion? d name

/-! ## The calendar -/

/-- The year, the week and the place in it that a day counts for. -/
def weekDate : RecordType :=
  { name := "IsoCalendarDate", library := "datetime.", places := ["year", "week", "weekday"] }

/-- A moment as numbers, as calendars keep it. -/
def calendarParts : RecordType :=
  { name := "struct_time", library := "time."
    places := ["tm_year", "tm_mon", "tm_mday", "tm_hour", "tm_min", "tm_sec", "tm_wday", "tm_yday",
      "tm_isdst"] }

/-- The parts of a moment; the last one tells whether the clock is set forward. -/
def calendarPartsOf (m : Calendar.Moment) (isForward : Int) : Value :=
  let d := m.date
  let numbers := [d.year, d.month, d.day, m.hour, m.minute, m.second, d.weekday, d.ofYear]
  .record calendarParts ((numbers.map fun (n : Nat) => .int n) ++ [.int isForward])

/-- The outcome of an operation of a day. -/
def dayOperation? (d : Calendar.Day) : String → Option Value
  | "ctime" => some (.text d.start.inWords)
  | "isocalendar" =>
    let (year, week, place) := d.isoWeek
    some (.record weekDate [.int year, .int week, .int place])
  | "isoformat" => some (.text d.text)
  | "isoweekday" => some (.int (d.weekday + 1))
  | "replace" => some (.day d)
  | "timetuple" => some (calendarPartsOf d.start (-1))
  | "toordinal" => some (.int d.ordinal)
  | "weekday" => some (.int d.weekday)
  | _ => none

/-- The failure of looking at the day before the first one, which is done to tell how the clock of
the place is set. -/
def beforeCalendar : Failure := .elementary .invalidValue "year 0 is out of range"

/-- The seconds since the start of the year 1970; a moment whose distance from universal time is
unknown is taken to be in it, and is told in two steps. -/
def timestampOf (m : Calendar.Moment) : Outcome :=
  let micro := m.sinceEpoch
  if m.offset.isSome then .ok (.float (.ofQuotient micro Calendar.perSecond))
  else if m.isEarliest then .error beforeCalendar
  else .ok (.float ((Number.Binary64.ofInt (micro.fdiv Calendar.perSecond)).add
    (.ofQuotient m.microsecond Calendar.perSecond)))

/-- A moment after a change that may leave the calendar. -/
def withinCalendar (m : Option Calendar.Moment) (f : Calendar.Moment → Value) : Outcome :=
  match m with
  | some m => .ok (f m)
  | none => .error (.elementary .overflow "date value out of range")

/-- The outcome of an operation of a moment. -/
def momentOperation? (m : Calendar.Moment) (name : String) : Option Outcome :=
  match name with
  | "astimezone" =>
    some (if m.offset.isNone && m.isEarliest then .error beforeCalendar
      else withinCalendar m.universal? .moment)
  | "ctime" => some (.ok (.text m.inWords))
  | "date" => some (.ok (.day m.date))
  | "dst" => some (.ok .none)
  | "isoformat" => some (.ok (.text (m.textWith "T")))
  | "replace" => some (.ok (.moment m))
  | "time" => some (.ok (.other "time"))
  | "timestamp" => some (timestampOf m)
  | "timetuple" => some (.ok (calendarPartsOf m (-1)))
  | "timetz" => some (.ok (.other "time"))
  | "tzname" => some (.ok ((m.offset.map fun o => .text (Calendar.zoneText o)).getD .none))
  | "utcoffset" => some (.ok ((m.offset.map Value.span).getD .none))
  | "utctimetuple" => some (withinCalendar m.universal? fun m => calendarPartsOf m 0)
  | name => (dayOperation? m.date name).map .ok

/-- The outcome of an operation of a length of time. -/
def spanOperation? (n : Int) : String → Option Value
  | "total_seconds" => some (.float (.ofQuotient n Calendar.perSecond))
  | "__abs__" => some (.span n.natAbs)
  | "__bool__" => some (.bool (n != 0))
  | "__neg__" => some (.span (-n))
  | "__pos__" => some (.span n)
  | _ => none

/-! ## All values -/

/-- The elementary type that a value has the operations of: that of the value itself, or of the
text or integer that a member of an enumeration is. -/
def kindOf (v : Value) : String :=
  match v with
  | .enumMember { base := .text, .. } => "str"
  | .enumMember { base := .integer, .. } => "int"
  | .record .. => "tuple"
  | .object .. => "object"
  | v => v.typeName

/-- The text or integer that a value is, if it is a member of an enumeration; any other value
itself. -/
def elementary (v : Value) : Value :=
  match v with
  | .enumMember { value := .text s, base := .text, .. } => .text s
  | .enumMember { value := .int n, base := .integer, .. } => .int n
  | v => v

/-- The outcome of something of the language that is called without operands. -/
def callOfLanguage (m : Annotation.Meaning) : Outcome := do
  let machine := Annotation.Machine.nested (fun _ => Annotation.Evaluated.tooDeep) 8
  let (m, _) ← (machine.callOf m { positional := [] }).run {}
  return Value.ofMeaning m

/-- The type that an enumeration is, as far as one member tells. -/
def enumType (m : EnumMember Value) : Value :=
  .type { name := m.enumeration, members := [(m.name, .value (.enumMember m))], slots := [],
          call := none }

/-- What a member of an enumeration keeps in its fields. -/
def enumFields (m : EnumMember Value) : Value :=
  .dict [(.text "_value_", m.value), (.text "_name_", .text m.name),
    (.text "__objclass__", enumType m), (.text "_sort_order_", .int 0)]

/-- The outcome of making a value of a class from nothing. -/
def ofNothing (c : Annotation.Meaning) : Outcome :=
  let refused := fun (text : String) => Except.error (Failure.elementary .wrongType text)
  match c.fullName with
  | "decimal.Decimal" => .ok (.decimal (.ofInt 0))
  | "datetime.date" => refused "function missing required argument 'year' (pos 1)"
  | "datetime.datetime" => refused "function missing required argument 'year' (pos 1)"
  | "datetime.timedelta" => .ok (.span 0)
  | "datetime.timezone" => refused "timezone() missing required argument 'offset' (pos 1)"
  | "function" => refused "function() missing required argument 'code' (pos 1)"
  | "method" => refused "method expected 2 arguments, got 0"
  | "builtin_function_or_method" =>
    refused "cannot create 'builtin_function_or_method' instances"
  | "type" => refused "type() takes 1 or 3 arguments"
  | _ => callOfLanguage c

/-- The outcome of making another value of the type of a value, from nothing. -/
def ofTypeOf (v : Value) : Outcome :=
  let lacking := fun (title parameter : String) =>
    Except.error (Failure.elementary .wrongType (Routine.missingText title [parameter]))
  match v with
  | .enumMember _ => lacking "EnumType.__call__" "value"
  | .mapping _ => lacking "FrozenMap.__init__" "d"
  | v => ofNothing v.toMeaning.classOf

/-- The outcome of calling an operation of a class without a value of the class. -/
def withoutValue (kind name : String) : Outcome :=
  let m : Annotation.Meaning := .unbound kind name
  .error (.elementary .wrongType
    (if m.isA "wrapper_descriptor" then
      "descriptor '" ++ name ++ "' of '" ++ kind ++ "' object needs an argument"
    else "unbound method " ++ kind ++ "." ++ name ++ "() needs an argument"))

/-- The outcome of an operation of a member of an enumeration. -/
def enumOperation? (m : EnumMember Value) (name : String) : Option Outcome :=
  match name, m.base, m.value with
  | "_new_member_", .text, _ => some (.error (Shortage.failure (.making "str") "" ""))
  | "_new_member_", .integer, _ => some (.error (Shortage.failure (.making "int") "" ""))
  | "_new_member_", .plain, _ => some (.error (Shortage.failure (.making "object") "" ""))
  | "_value_repr_", _, v => some (.ok (.text v.shown))
  | "__iter__", .text, _ => some (.ok (.other "str_iterator"))
  | "format", .text, .text s =>
    -- a text without fields is its own result
    if s.isEmpty || s.toList.any (fun c => c == '\x7b' || c == '\x7d') then none
    else some (.ok (.enumMember m))
  | name, _, _ =>
    (Shortage.find? name Shortage.ofEnumerations).map fun s => .error (s.failure m.enumeration name)

/-- The outcome of an operation of the dictionary that holds itself. -/
def selfDictOperation? : String → Option Value
  | "copy" => some (.dict [(.text "self", .selfDict)])
  | "popitem" => some (.tuple [.text "self", .dict []])
  | _ => none

/-- The outcome of an operation that hands out what a container holds, or puts it in order. -/
def containerOperation? (v : Value) (name : String) : Option Outcome :=
  let taken := fun (found : Option Value) (failure : Failure) =>
    some (match found with
      | some item => Except.ok item
      | none => .error failure)
  match v, name with
  | .list _, "copy" => some (.ok v)
  | .list items, "pop" =>
    taken items.getLast? (.elementary .outOfRange "pop from empty list")
  | .list items, "sort" => some ((Value.inOrder items).map fun _ => Value.none)
  | .dict _, "copy" => some (.ok v)
  | .dict entries, "popitem" =>
    taken (entries.getLast?.map fun (k, x) => .tuple [k, x])
      (.elementary .missingKey (Text.quote "popitem(): dictionary is empty"))
  | .set _, "copy" => some (.ok v)
  | .set _, "union" => some (.ok v)
  | .set _, "difference" => some (.ok v)
  | .set _, "intersection" => some (.ok v)
  | .set items, "pop" =>
    taken items.head? (.elementary .missingKey (Text.quote "pop from an empty set"))
  | .tuple _, "__getnewargs__" => some (.ok (.tuple [v]))
  | _, _ => none

/-- The outcome of a routine of a mapping that is not a dictionary. -/
def mappingOperation? (entries : Value.Entries) : String → Option Value
  | "items" => some (.other "ItemsView")
  | "keys" => some (.other "KeysView")
  | "values" => some (.other "ValuesView")
  | "__len__" => some (.int entries.length)
  | "__iter__" => some (.other "dict_keyiterator")
  | _ => none

/-- The outcome of an operation of a type. -/
def typeOperation? : String → Option Value
  | "__subclasses__" => some (.list [])
  | _ => none

/-- The outcome of an operation that the type of a value defines by itself. -/
def ownOperation? (v : Value) (name : String) : Option Outcome :=
  if name = "__class__" then some (ofTypeOf v)
  else match v with
  | .bool b =>
    if name = "__getnewargs__" then some (.ok (.tuple [.int (if b then 1 else 0)])) else none
  | .enumMember m => enumOperation? m name
  | .type _ => (typeOperation? name).map .ok
  | .meaning (.unbound kind given) => some (withoutValue kind given)
  | .list _ | .dict _ | .set _ | .tuple _ => containerOperation? v name
  | .decimal d => decimalOperation? d name
  | .day d => (dayOperation? d name).map .ok
  | .moment m => momentOperation? m name
  | .span n => (spanOperation? n name).map .ok
  | .zone n => if name = "__getinitargs__" then some (.ok (.tuple [.span n])) else none
  | .selfDict => (selfDictOperation? name).map .ok
  | .mapping entries => (mappingOperation? entries name).map .ok
  | _ => none

/-- The outcome of an operation with a special name that every type has. -/
def commonOperation? (v : Value) (name : String) : Option Outcome :=
  match name with
  | "__init__" => some (.ok .none)
  | "__init_subclass__" => some (.ok .none)
  | "__subclasshook__" => some (.ok (.other "NotImplementedType"))
  | "__repr__" => some (.ok (.text v.shown))
  | "__str__" => some (v.plain?.map Value.text)
  | "__getstate__" =>
    match v with
    | .object b fields =>
      let state := Value.dict (fields.map fun (name, v) => (.text name, v))
      some (.ok (if fields.isEmpty then .none
        else if b.slots.isEmpty then state else .tuple [.none, state]))
    | .mapping entries => some (.ok (.dict [(.text "_d", .dict entries)]))
    | .enumMember m => some (.ok (enumFields m))
    | _ => some (.ok .none)
  | _ => none

/-- The outcome of an operation of a value that is called without operands. -/
def operation (v : Value) (name : String) : Outcome :=
  match ownOperation? v name, Shortage.of? (kindOf v) name, commonOperation? v name with
  | some outcome, _, _ => outcome
  | none, some shortage, _ => .error (shortage.failure (v.className?.getD v.typeName) name)
  | none, none, some outcome => outcome
  | none, none, none => callOfLanguage (.method (elementary v).toMeaning name)

end Lookup
end BoundUpdate
