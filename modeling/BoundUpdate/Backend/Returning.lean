import BoundUpdate.Failure.Basic
import BoundUpdate.Text.Blank
import BoundUpdate.Text.Split
import BoundUpdate.Value.Dictionary

namespace BoundUpdate
namespace Returning

/-!
# Returning clauses

Some databases return the keys of a statement that ends with a returning
clause.  Before the clause is appended, comments that end the statement are
taken off, so that the clause is not part of a comment; then semicolons at the
end are.  Only the last line is searched for a comment, quotes that open on it
are respected, and the search is repeated until nothing changes.
-/

/-- The text before a comment that starts outside quotes; `quote` is the quote that is open. -/
def beforeComment? : (quote : Option Char) → List Char → Option (List Char)
  | _, [] => none
  | some q, c :: rest =>
    (beforeComment? (if c = q then none else some q) rest).map (c :: ·)
  | none, c :: rest =>
    if c = '\'' ∨ c = '"' then (beforeComment? (some c) rest).map (c :: ·)
    else if c = '-' ∧ rest.head? = some '-' then some []
    else (beforeComment? none rest).map (c :: ·)

/-- A text without the comment on its last line. -/
def dropComment (s : List Char) : List Char :=
  match Text.cutLast? '\n' s with
  | some (head, last) =>
    match beforeComment? none last with
    | some code => head ++ '\n' :: code
    | none => s
  | none => (beforeComment? none s).getD s

/-- A text without the comments and blanks at its end. -/
def settle (s : List Char) : List Char :=
  let t := Text.trimEnd (dropComment s)
  if t.length < s.length then settle t else s
termination_by s.length

/-- A text without the semicolons at its end. -/
def dropSemicolons (s : List Char) : List Char := (s.reverse.dropWhile (· == ';')).reverse

/-- The part of a statement that stays in front of a returning clause. -/
def body (s : List Char) : List Char :=
  Text.trimEnd (dropSemicolons (settle (Text.trimEnd s)))

/-- The names of columns, which must be texts; `place` counts the columns before them. -/
def columnNames (place : Nat) : List Value → Except Failure (List String)
  | [] => .ok []
  | v :: rest =>
    match v.text? with
    | some name => (columnNames (place + 1) rest).map (name :: ·)
    | none => .error (.elementary .wrongType
        ("sequence item " ++ Number.natText place ++ ": expected str instance, " ++
          v.qualifiedTypeName ++ " found"))

/-- The names of columns between commas. -/
def joinedNames (columns : List Value) : Except Failure String :=
  (columnNames 0 columns).map (String.intercalate ", ")

/-- The columns of a returning clause: the named ones, or all. -/
def columnList (columns : List Value) : Except Failure String :=
  if columns.isEmpty then .ok "*" else joinedNames columns

/-- The columns of a returning clause for a value: all when it counts as false, and otherwise the
ones that its items name. -/
def columnsOf (v : Value) : Except Failure String := do
  if ← v.truth then joinedNames (← v.toItems) else return "*"

/-- A statement with a returning clause for some columns. -/
def withColumns (sql columns : String) : String :=
  String.ofList (body sql.toList) ++ " RETURNING " ++ columns

/-- A statement with a returning clause. -/
def append (sql : String) (columns : List Value) : Except Failure String :=
  (columnList columns).map (withColumns sql)

/-- A statement with a returning clause for the columns that a value tells. -/
def appendOf (sql : String) (columns : Value) : Except Failure String :=
  (columnsOf columns).map (withColumns sql)

theorem appendOf_list (sql : String) (columns : List Value) :
    appendOf sql (.list columns) = append sql columns := by
  cases columns <;> rfl

end Returning
end BoundUpdate
