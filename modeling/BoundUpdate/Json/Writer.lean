import BoundUpdate.Failure.Basic
import BoundUpdate.Number.IntegerText
import BoundUpdate.Text.Quoted
import BoundUpdate.Value.Basic

namespace BoundUpdate
namespace Json

/-!
# Values as JSON text

A dictionary is an object, a list or tuple an array.  Parts are separated by a
comma and a space, keys from their values by a colon and a space.  Texts keep
every character but quotes, backslashes and controls.  Keys that are not texts
are written as texts when they are numbers, truth values or nothing; members of
enumerations are written as the text or integer they are.  Other values have no
JSON text, and neither have values that lie too deep in each other.
-/

/-- One character inside quotes. -/
def escape (c : Char) : List Char :=
  if c = '"' then ['\\', '"']
  else if c = '\\' then ['\\', '\\']
  else if c = '\n' then ['\\', 'n']
  else if c = '\r' then ['\\', 'r']
  else if c = '\t' then ['\\', 't']
  else if c = '\x08' then ['\\', 'b']
  else if c = '\x0c' then ['\\', 'f']
  else if c.toNat < 0x20 then '\\' :: 'u' :: Text.hexDigits 4 c.toNat
  else [c]

/-- A text between quotes. -/
def quote (s : List Char) : List Char := '"' :: s.flatMap escape ++ ['"']

/-- A number; the words for numbers that are not finite are those of the reader. -/
def real (x : Number.Binary64) : List Char :=
  match x with
  | .nan => "NaN".toList
  | .infinity negative => (if negative then "-Infinity" else "Infinity").toList
  | x => x.text.toList

/-- Why a value has no JSON text. -/
inductive WriteError where
  /-- A part of the value, or the value, is of a type that is not written. -/
  | unwritable (part : Value)
  | failed (failure : Failure)

/-- An integer, unless it has too many digits. -/
def integer (n : Int) : Except WriteError (List Char) :=
  if Number.isWritable n then .ok (Number.intText n).toList
  else
    .error (.failed (.elementary .invalidValue
      ("Exceeds the limit (" ++ Number.natText Number.digitLimit ++
        " digits) for integer string conversion; " ++
        "use sys.set_int_max_str_digits() to increase the limit")))

/-- The failure of writing a value of a type that is not written, which goes by a name. -/
def unwritable (typeName : String) : Failure :=
  .raised .wrongType ("Object of type " ++ typeName ++ " is not JSON serializable")

/-- The failure of writing a key that is no text and cannot be written as one. -/
def unwritableKey (v : Value) : Failure :=
  .elementary .wrongType ("keys must be str, int, float, bool or None, not " ++ v.typeName)

/-- A key before it is quoted. -/
def key : Value → Except WriteError (List Char)
  | .text s => .ok s.toList
  | .none => .ok "null".toList
  | .bool b => .ok (if b then "true" else "false").toList
  | .int n => integer n
  | .float x => .ok (real x)
  | v =>
    match v.text?, v.int? with
    | some s, _ => .ok s.toList
    | none, some n => integer n
    | none, none => .error (.failed (unwritableKey v))

/-- The failure of writing values that lie too deep in each other. -/
def tooDeeplyWritten : WriteError := .failed (.tooDeep " while encoding a JSON object")

mutual

/-- The JSON text of a value; `nesting` levels are left. -/
def write (nesting : Nat) : Value → Except WriteError (List Char)
  | .none => .ok "null".toList
  | .bool b => .ok (if b then "true" else "false").toList
  | .int n => integer n
  | .float x => .ok (real x)
  | .text s => .ok (quote s.toList)
  | .list items => do
    let nesting ← Nesting.enter tooDeeplyWritten nesting
    return '[' :: (← writeItems nesting items) ++ [']']
  | .tuple items => do
    let nesting ← Nesting.enter tooDeeplyWritten nesting
    return '[' :: (← writeItems nesting items) ++ [']']
  | .record _ items => do
    let nesting ← Nesting.enter tooDeeplyWritten nesting
    return '[' :: (← writeItems nesting items) ++ [']']
  | .dict entries => do
    let nesting ← Nesting.enter tooDeeplyWritten nesting
    return '\x7b' :: (← writeEntries nesting entries) ++ ['\x7d']
  | .selfDict => do
    -- the dictionary is met again one level deeper
    let nesting ← Nesting.enter tooDeeplyWritten nesting
    let _ ← Nesting.enter tooDeeplyWritten nesting
    .error (.failed (.elementary .invalidValue "Circular reference detected"))
  | .enumMember m =>
    match (Value.enumMember m).text?, (Value.enumMember m).int? with
    | some s, _ => .ok (quote s.toList)
    | none, some n => integer n
    | none, none => .error (.unwritable (.enumMember m))
  | v => .error (.unwritable v)

/-- The items of an array. -/
def writeItems (nesting : Nat) : List Value → Except WriteError (List Char)
  | [] => .ok []
  | [v] => write nesting v
  | v :: rest => do
    let first ← write nesting v
    let others ← writeItems nesting rest
    return first ++ ',' :: ' ' :: others

/-- The entries of an object. -/
def writeEntries (nesting : Nat) : List (Value × Value) → Except WriteError (List Char)
  | [] => .ok []
  | [(k, v)] => do
    let name ← key k
    let body ← write nesting v
    return quote name ++ ':' :: ' ' :: body
  | (k, v) :: rest => do
    let name ← key k
    let body ← write nesting v
    let others ← writeEntries nesting rest
    return quote name ++ ':' :: ' ' :: body ++ ',' :: ' ' :: others

end

/-- The JSON text of a value. -/
def text (v : Value) (nesting : Nat := Nesting.usual) : Except WriteError String :=
  (write nesting v).map String.ofList

end Json
end BoundUpdate
