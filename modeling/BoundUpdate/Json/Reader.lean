import BoundUpdate.Failure.Basic
import BoundUpdate.Number.IntegerText
import BoundUpdate.Number.RealText
import BoundUpdate.Text.Percent
import BoundUpdate.Text.Split
import BoundUpdate.Value.Equality

namespace BoundUpdate
namespace Json

/-!
# Reading JSON text

The reader takes one value from the front of a text and tells where it stopped
or what it expected there.  An object with a repeated name keeps the first
place and the last value.  The words for numbers that are not finite are read,
and integers have no more digits than any integer that is read.  Lists and
objects lie in each other no deeper than calls may.
-/

/-- Why a text is not JSON. -/
inductive ReadError where
  /-- Something is wrong at a position, counted from zero. -/
  | malformed (message : String) (position : Nat)
  /-- An integer has too many digits. -/
  | integerTooLong (digits : Nat)
  /-- A list or an object lies too deep in others. -/
  | tooDeep (form : String)
  deriving DecidableEq, Repr

/-- A value read from the front of a text, the position after it and the rest of the text. -/
abbrev Taken (α : Type) := α × Nat × List Char

/-- Fail at a position. -/
def expected {α : Type} (message : String) (position : Nat) : Except ReadError α :=
  .error (.malformed message position)

/-- Whether a character is a blank between parts of a JSON text. -/
def isBlank (c : Char) : Bool := c == ' ' || c == '\t' || c == '\n' || c == '\r'

/-- Skip blanks. -/
def skipBlanks (position : Nat) : List Char → Nat × List Char
  | [] => (position, [])
  | c :: rest => if isBlank c then skipBlanks (position + 1) rest else (position, c :: rest)

/-- The number that four hexadecimal digits spell. -/
def fourDigits? (a b c d : Char) : Option Nat := do
  return (((← Text.hexValue? a) * 16 + (← Text.hexValue? b)) * 16 + (← Text.hexValue? c)) * 16 +
    (← Text.hexValue? d)

/-- Whether a code unit is the first one of a pair. -/
def isHighUnit (n : Nat) : Bool := 0xD800 ≤ n && n ≤ 0xDBFF

/-- Whether a code unit is the second one of a pair. -/
def isLowUnit (n : Nat) : Bool := 0xDC00 ≤ n && n ≤ 0xDFFF

/-- The code point of a pair of code units. -/
def joinUnits (high low : Nat) : Nat := 0x10000 + (high - 0xD800) * 1024 + (low - 0xDC00)

/-- The character that a short escape stands for. -/
def shortEscape? (c : Char) : Option Char :=
  if c = '"' ∨ c = '\\' ∨ c = '/' then some c
  else if c = 'b' then some '\x08'
  else if c = 'f' then some '\x0c'
  else if c = 'n' then some '\n'
  else if c = 'r' then some '\r'
  else if c = 't' then some '\t'
  else none

/-- The message about an escape by code point. -/
def unitMessage : String := "Invalid \\uXXXX escape"

/-- The code point that starts with a code unit, and how many characters of the text after its
escape belong to it: those of a second escape when the two make a pair. -/
def pairedCode (position n : Nat) (more : List Char) : Except ReadError (Nat × Nat) :=
  match isHighUnit n, more with
  | true, '\\' :: 'u' :: a :: b :: c :: d :: _ :: _ =>
    match fourDigits? a b c d with
    | none => expected unitMessage (position + 1)
    | some low => .ok (if isLowUnit low then (joinUnits n low, 6) else (n, 0))
  | _, _ => .ok (n, 0)

/-- The rest of a quoted text, whose opening quote stands at `start`. -/
def takeQuoted (start position : Nat) : List Char → Except ReadError (Taken (List Char))
  | [] => expected "Unterminated string starting at" start
  | '"' :: rest => .ok ([], position + 1, rest)
  | '\\' :: [] => expected "Unterminated string starting at" start
  | '\\' :: 'u' :: a :: b :: c :: d :: more =>
    if more = [] then expected unitMessage (position + 1)
    else
      match fourDigits? a b c d with
      | none => expected unitMessage (position + 1)
      | some n => do
        let (code, width) ← pairedCode (position + 6) n more
        let (s, last, rest) ← takeQuoted start (position + 6 + width) (more.drop width)
        return (Char.ofNat code :: s, last, rest)
  | '\\' :: 'u' :: _ => expected unitMessage (position + 1)
  | '\\' :: c :: rest =>
    match shortEscape? c with
    | some x => do
      let (s, last, rest) ← takeQuoted start (position + 2) rest
      return (x :: s, last, rest)
    | none => expected "Invalid \\escape" position
  | c :: rest =>
    if c.toNat < 0x20 then expected "Invalid control character at" position
    else do
      let (s, last, rest) ← takeQuoted start (position + 1) rest
      return (c :: s, last, rest)
termination_by s => s.length
decreasing_by all_goals simp only [List.length_cons, List.length_drop]; omega

/-- The fraction at the front of a text. -/
def takeFraction : List Char → List Char × List Char
  | '.' :: d :: rest =>
    if Number.isDigit d then
      ('.' :: d :: rest.takeWhile Number.isDigit, rest.dropWhile Number.isDigit)
    else ([], '.' :: d :: rest)
  | s => ([], s)

/-- The sign at the front of a text. -/
def takeSign : List Char → List Char × List Char
  | '+' :: rest => (['+'], rest)
  | '-' :: rest => (['-'], rest)
  | s => ([], s)

/-- The power of ten at the front of a text. -/
def takePower (s : List Char) : List Char × List Char :=
  match s with
  | c :: rest =>
    if c = 'e' ∨ c = 'E' then
      let (sign, more) := takeSign rest
      let ds := more.takeWhile Number.isDigit
      if ds = [] then ([], s) else (c :: sign ++ ds, more.dropWhile Number.isDigit)
    else ([], s)
  | [] => ([], s)

/-- The digits before the point of a number: a zero, or digits that do not start with one. -/
def takeWhole : List Char → Option (List Char × List Char)
  | [] => none
  | '0' :: rest => some (['0'], rest)
  | d :: rest =>
    if Number.isDigit d then
      some (d :: rest.takeWhile Number.isDigit, rest.dropWhile Number.isDigit)
    else none

/-- A number without its sign, at the front of a text. -/
def takeUnsigned (negative : Bool) (s : List Char) :
    Option (Except ReadError Value × Nat × List Char) :=
  (takeWhole s).map fun (whole, rest) =>
    let (fraction, rest) := takeFraction rest
    let (power, rest) := takePower rest
    let size := whole.length + fraction.length + power.length
    if fraction.isEmpty && power.isEmpty then
      let n : Int := Number.readDigits whole
      (if Number.digitLimit < whole.length then .error (.integerTooLong whole.length)
        else .ok (.int (if negative then -n else n)), size, rest)
    else
      let literal := Number.readDecimalLiteral (whole ++ fraction ++ power)
      let x := match literal with
        | some l => Number.Binary64.ofDecimal negative l.digits l.exponent
        | none => .nan
      (.ok (.float x), size, rest)

/-- A number at the front of a text. -/
def takeNumber (position : Nat) (s : List Char) : Except ReadError (Taken Value) :=
  let (sign, digits) := match s with
    | '-' :: rest => (1, rest)
    | s => (0, s)
  match takeUnsigned (sign == 1) digits with
  | none => expected "Expecting value" position
  | some (v, size, rest) => v.map fun v => (v, position + sign + size, rest)

/-- The words for values, with the values they stand for. -/
def words : List (List Char × Value) :=
  [("null".toList, .none), ("true".toList, .bool true), ("false".toList, .bool false),
   ("NaN".toList, .float .nan), ("Infinity".toList, .float (.infinity false)),
   ("-Infinity".toList, .float (.infinity true))]

/-- The value that a word at the front of a text stands for. -/
def takeWord? (position : Nat) (s : List Char) : Option (Value × Nat × List Char) :=
  (words.find? fun word => word.1.isPrefixOf s).map fun (word, v) =>
    (v, position + word.length, s.drop word.length)

mutual

/-- A value at the front of a text; `nesting` levels are left, and `fuel` bounds the number of
steps. -/
def takeValue (nesting fuel position : Nat) (s : List Char) : Except ReadError (Taken Value) :=
  match fuel with
  | 0 => expected "Expecting value" position
  | fuel + 1 =>
    match s with
    | '"' :: rest => do
      let (text, last, rest) ← takeQuoted position (position + 1) rest
      return (.text (String.ofList text), last, rest)
    | '\x7b' :: rest => do
      let nesting ← Nesting.enter (.tooDeep "object") nesting
      let (position, rest) := skipBlanks (position + 1) rest
      match rest with
      | '\x7d' :: rest => return (.dict [], position + 1, rest)
      | rest =>
        let (entries, last, rest) ← takeEntries nesting fuel position [] rest
        return (.dict entries, last, rest)
    | '[' :: rest => do
      let nesting ← Nesting.enter (.tooDeep "array") nesting
      let (position, rest) := skipBlanks (position + 1) rest
      match rest with
      | ']' :: rest => return (.list [], position + 1, rest)
      | rest =>
        let (items, last, rest) ← takeItems nesting fuel position rest
        return (.list items, last, rest)
    | s =>
      match takeWord? position s with
      | some taken => .ok taken
      | none => takeNumber position s

/-- The items of an array, up to its closing bracket. -/
def takeItems (nesting fuel position : Nat) (s : List Char) :
    Except ReadError (Taken (List Value)) :=
  match fuel with
  | 0 => expected "Expecting value" position
  | fuel + 1 => do
    let (v, last, rest) ← takeValue nesting fuel position s
    let (position, rest) := skipBlanks last rest
    match rest with
    | ']' :: rest => return ([v], position + 1, rest)
    | ',' :: rest =>
      let (position, rest) := skipBlanks (position + 1) rest
      let (items, last, rest) ← takeItems nesting fuel position rest
      return (v :: items, last, rest)
    | _ => expected "Expecting ',' delimiter" position

/-- The entries of an object, up to its closing brace, added to `entries`. -/
def takeEntries (nesting fuel position : Nat) (entries : Value.Entries) (s : List Char) :
    Except ReadError (Taken Value.Entries) :=
  match fuel with
  | 0 => expected "Expecting value" position
  | fuel + 1 =>
    match s with
    | '"' :: rest => do
      let (name, last, rest) ← takeQuoted position (position + 1) rest
      let (position, rest) := skipBlanks last rest
      match rest with
      | ':' :: rest =>
        let (position, rest) := skipBlanks (position + 1) rest
        let (v, last, rest) ← takeValue nesting fuel position rest
        let entries := Value.Entries.insert entries (.text (String.ofList name)) v
        let (position, rest) := skipBlanks last rest
        match rest with
        | '\x7d' :: rest => return (entries, position + 1, rest)
        | ',' :: rest =>
          let (position, rest) := skipBlanks (position + 1) rest
          takeEntries nesting fuel position entries rest
        | _ => expected "Expecting ',' delimiter" position
      | _ => expected "Expecting ':' delimiter" position
    | _ => expected "Expecting property name enclosed in double quotes" position

end

/-- How many steps of the readers can lie in each other in a text: twice the number of its
characters that are no blanks, since an opening bracket takes two steps. -/
def depthBound (s : List Char) : Nat := 2 * (s.filter fun c => !isBlank c).length + 1

/-- Read a JSON text. -/
def read (s : List Char) (nesting : Nat := Nesting.usual) : Except ReadError Value :=
  match s with
  | '\uFEFF' :: _ => expected "Unexpected UTF-8 BOM (decode using utf-8-sig)" 0
  | s => do
    let (position, rest) := skipBlanks 0 s
    let (v, last, rest) ← takeValue nesting (depthBound s) position rest
    let (position, rest) := skipBlanks last rest
    match rest with
    | [] => return v
    | _ => expected "Extra data" position

/-- The line and the column of a position, both counted from one. -/
def lineColumn (s : List Char) (position : Nat) : Nat × Nat :=
  let front := s.take position
  (front.count '\n' + 1, (front.reverse.takeWhile (· != '\n')).length + 1)

/-- The failure that an error in a text leads to. -/
def ReadError.failure (s : List Char) : ReadError → Failure
  | .malformed message position =>
    let (line, column) := lineColumn s position
    .raised .malformedJson
      (message ++ ": line " ++ Number.natText line ++ " column " ++ Number.natText column ++
        " (char " ++ Number.natText position ++ ")")
  | .integerTooLong digits =>
    .elementary .invalidValue
      ("Exceeds the limit (" ++ Number.natText Number.digitLimit ++
        " digits) for integer string conversion: value has " ++ Number.natText digits ++
        " digits; use sys.set_int_max_str_digits() to increase the limit")
  | .tooDeep form => .tooDeep (" while decoding a JSON " ++ form ++ " from a unicode string")

end Json
end BoundUpdate
