import BoundUpdate.Annotation.Display
import BoundUpdate.Text.Quoted
import BoundUpdate.Value.Basic

namespace BoundUpdate
namespace Value

/-!
# Values shown in messages

A shown value spells its type: texts are quoted, containers bracketed, members
of enumerations named.  The plain text of a value differs from that for texts,
values of the calendar, decimals and members of enumerations only.
-/

/-- A day as an expression. -/
def showDay (d : Calendar.Day) : String :=
  "datetime.date(" ++ Number.natText d.year ++ ", " ++ Number.natText d.month ++ ", " ++
    Number.natText d.day ++ ")"

/-- A length of time as an expression: days, seconds and microseconds that are not zero, of which
the days alone may be negative. -/
def showSpan (microseconds : Int) : String :=
  let part := fun (name : String) (n : Int) =>
    if n = 0 then [] else [name ++ "=" ++ Number.intText n]
  let s := Calendar.Span.ofMicroseconds microseconds
  "datetime.timedelta(" ++ (if microseconds = 0 then "0" else String.intercalate ", "
    (part "days" s.days ++ part "seconds" s.seconds ++ part "microseconds" s.microseconds)) ++ ")"

/-- A distance from universal time as an expression. -/
def showOffset (microseconds : Int) : String :=
  if microseconds = 0 then "datetime.timezone.utc"
  else "datetime.timezone(" ++ showSpan microseconds ++ ")"

/-- A moment as an expression; zero seconds and microseconds at the end are left out. -/
def showMoment (m : Calendar.Moment) : String :=
  let always := [m.date.year, m.date.month, m.date.day, m.hour, m.minute]
  let late := if m.microsecond = 0 then (if m.second = 0 then [] else [m.second])
    else [m.second, m.microsecond]
  let parts := (always ++ late).map Number.natText
  let parts := match m.offset with
    | some o => parts ++ ["tzinfo=" ++ showOffset o]
    | Option.none => parts
  "datetime.datetime(" ++ String.intercalate ", " parts ++ ")"

/-- An object as messages show it: as its type says, if it does. -/
def showObject (v : Value) : String :=
  match v.ask? "__repr__" with
  | some (.ok (.text s)) => s
  | _ => "<" ++ v.typeName ++ " object>"

mutual

/-- A value as messages show it. -/
def shown : Value → String
  | .none => "None"
  | .bool b => if b then "True" else "False"
  | .int n => Number.intText n
  | .float x => x.text
  | .text s => Text.quote s
  | .bytes bs => Text.quoteBytes bs
  | .list items => "[" ++ shownItems items ++ "]"
  | .tuple [v] => "(" ++ shown v ++ ",)"
  | .tuple items => "(" ++ shownItems items ++ ")"
  | .record t items => t.library ++ t.name ++ "(" ++ shownPlaces t.places items ++ ")"
  | .dict entries => "\x7b" ++ shownEntries entries ++ "\x7d"
  | .mapping _ => "<FrozenMap object>"
  | .set [] => "set()"
  | .set items => "\x7b" ++ shownItems items ++ "\x7d"
  | .selfDict => "\x7b'self': \x7b...\x7d\x7d"
  | .day d => showDay d
  | .moment m => showMoment m
  | .span microseconds => showSpan microseconds
  | .zone microseconds => showOffset microseconds
  | .decimal d => "Decimal('" ++ d.text ++ "')"
  | .enumMember m => "<" ++ m.enumeration ++ "." ++ m.name ++ ": " ++ shown m.value ++ ">"
  | .function r => "<function " ++ r.title ++ ">"
  | .boundMethod name _ => "<bound method " ++ name ++ ">"
  | .lengthFunction => "<built-in function len>"
  | .object b fields => showObject (.object b fields)
  | .type b => "<class '" ++ b.name ++ "'>"
  | .meaning m => m.shown
  | .other name => "<" ++ name ++ " object>"

/-- Values separated by commas. -/
def shownItems : List Value → String
  | [] => ""
  | [v] => shown v
  | v :: rest => shown v ++ ", " ++ shownItems rest

/-- Items with the names of their places, separated by commas. -/
def shownPlaces : List String → List Value → String
  | name :: names, v :: rest =>
    name ++ "=" ++ shown v ++ (if rest.isEmpty then "" else ", ") ++ shownPlaces names rest
  | _, _ => ""

/-- Entries separated by commas. -/
def shownEntries : List (Value × Value) → String
  | [] => ""
  | [(k, v)] => shown k ++ ": " ++ shown v
  | (k, v) :: rest => shown k ++ ": " ++ shown v ++ ", " ++ shownEntries rest

end

/-- What a special member answers when it must answer a text. -/
def told (special : String) (answer : Value) : Except Failure String :=
  match answer.text? with
  | some s => .ok s
  | Option.none => .error (.elementary .wrongType
      (special ++ " returned non-string (type " ++ answer.typeName ++ ")"))

mutual

/-- The failure of showing a value: that of the first object in it that refuses to be shown. -/
def showFault? : Value → Option Failure
  | .list items => showFaultIn? items
  | .tuple items => showFaultIn? items
  | .record _ items => showFaultIn? items
  | .set items => showFaultIn? items
  | .dict entries => showFaultInEntries? entries
  | .enumMember m => showFault? m.value
  | .object b fields =>
    match (Value.object b fields).ask? "__repr__" with
    | some outcome =>
      match outcome.bind (told "__repr__") with
      | .ok _ => Option.none
      | .error failure => some failure
    | Option.none => Option.none
  | _ => Option.none

/-- The failure of showing values. -/
def showFaultIn? : List Value → Option Failure
  | [] => Option.none
  | v :: rest => showFault? v <|> showFaultIn? rest

/-- The failure of showing entries. -/
def showFaultInEntries? : List (Value × Value) → Option Failure
  | [] => Option.none
  | (k, v) :: rest => showFault? k <|> showFault? v <|> showFaultInEntries? rest

end

/-- A failure whose wording shows a value; when the value refuses to be shown, that is what
fails. -/
def failShowing (v : Value) (failure : String → Failure) : Failure :=
  v.showFault?.getD (failure v.shown)

/-- The plain text of a value. -/
def plain : Value → String
  | .text s => s
  | .day d => d.text
  | .moment m => m.textWith " "
  | .span microseconds => Calendar.spanText microseconds
  | .zone microseconds => Calendar.zoneText microseconds
  | .decimal d => d.text
  | .enumMember m => m.enumeration ++ "." ++ m.name
  | .object b fields =>
    match (Value.object b fields).ask? "__str__" with
    | some (.ok (.text s)) => s
    | _ => showObject (.object b fields)
  | v => v.shown

/-- The plain text of a value, unless its type refuses to tell it. -/
def plain? (v : Value) : Except Failure String :=
  match v.ask? "__str__", v with
  | some outcome, _ => outcome.bind (told "__str__")
  | Option.none, .enumMember m => .ok (Value.enumMember m).plain
  | Option.none, v =>
    match v.showFault? with
    | some failure => .error failure
    | Option.none => .ok v.plain

@[simp]
theorem plain_text (s : String) : (Value.text s).plain = s := rfl

end Value
end BoundUpdate
