import BoundUpdate.Failure.Basic
import BoundUpdate.Number.IntegerText
import BoundUpdate.Template.Basic
import BoundUpdate.Text.Identifier
import BoundUpdate.Text.Split

namespace BoundUpdate
namespace Template

/-!
# Reading templates

Only text after a question mark is looked at.  A digit starts a run of digits,
the index of an argument; a brace starts an index with members after it, which
ends at the first closing brace.  Any other question mark is literal.  The
reader carries the column of the text it looks at and stops at the first fault,
which it reports with its column.
-/

/-- Why a template text cannot be read. -/
inductive ReadError where
  /-- A placeholder has a fault at a column. -/
  | malformed (fault : TemplateFault) (column : Nat)
  /-- An index has more digits than are read. -/
  | indexTooLong (digits : Nat)
  deriving DecidableEq, Repr

/-- An index that must be positive. -/
def readIndex (column : Nat) (ds : List Char) : Except ReadError Int :=
  if Number.digitLimit < ds.length then .error (.indexTooLong ds.length)
  else if Number.readDigits ds = 0 then .error (.malformed .zeroIndex column)
  else .ok (Number.readDigits ds)

/-- The members after an index: every one is a name. -/
def readPath (column : Nat) (content : List Char) :
    List (List Char) → Except ReadError (List String)
  | [] => .ok []
  | name :: rest =>
    if Text.isIdentifier name then
      (readPath column content rest).map (String.ofList name :: ·)
    else
      .error (.malformed (.badMember (String.ofList name) (String.ofList content)) column)

/-- The text between the braces of a placeholder, with its column. -/
def readContent (column : Nat) (content : List Char) : Except ReadError Placeholder :=
  if content = [] then .error (.malformed .empty (column - 1))
  else
    match Text.splitOn '.' content with
    | [] => .error (.malformed .empty (column - 1))
    | index :: path =>
      if index ≠ [] ∧ index.all Number.isDigit then do
        let n ← readIndex column index
        let members ← readPath column content path
        return { index := n, path := members }
      else .error (.malformed (.notNumeric (String.ofList index)) column)

/-- Put a literal character in front of segments. -/
def prependChar (c : Char) : List Segment → List Segment
  | .literal text :: rest => .literal (String.singleton c ++ text) :: rest
  | segments => .literal (String.singleton c) :: segments

/-- The segments of a text that starts at a column. -/
def readFrom (column : Nat) : List Char → Except ReadError (List Segment)
  | [] => .ok []
  | '?' :: '{' :: body =>
    match h : body.dropWhile (· != '\x7d') with
    | [] => .error (.malformed .unterminated (column + 1))
    | _ :: rest =>
      have : rest.length < body.length + 2 := by
        have hle := (List.dropWhile_sublist (p := (· != '\x7d')) (l := body)).length_le
        simp [h] at hle
        omega
      let content := body.takeWhile (· != '\x7d')
      do
        let p ← readContent (column + 2) content
        let segments ← readFrom (column + 3 + content.length) rest
        return .placeholder p :: segments
  | '?' :: d :: body =>
    if Number.isDigit d then
      let ds := d :: body.takeWhile Number.isDigit
      have : (body.dropWhile Number.isDigit).length < body.length + 2 := by
        have hle := (List.dropWhile_sublist (p := Number.isDigit) (l := body)).length_le
        omega
      do
        let index ← readIndex (column + 1) ds
        let segments ← readFrom (column + 1 + ds.length) (body.dropWhile Number.isDigit)
        return .placeholder { index } :: segments
    else (readFrom (column + 1) (d :: body)).map (prependChar '?')
  | c :: rest => (readFrom (column + 1) rest).map (prependChar c)
termination_by s => s.length

/-- Read a template text. -/
def read (source : String) : Except ReadError Template :=
  (readFrom 0 source.toList).map fun segments => { source, segments }

/-- The failure that a template text with an error leads to. -/
def ReadError.failure (source : String) : ReadError → Failure
  | .malformed fault column => .template (.malformed fault source column)
  | .indexTooLong digits =>
    .elementary .invalidValue
      ("Exceeds the limit (" ++ Number.natText Number.digitLimit ++
        " digits) for integer string conversion: value has " ++ Number.natText digits ++
        " digits; use sys.set_int_max_str_digits() to increase the limit")

end Template
end BoundUpdate
