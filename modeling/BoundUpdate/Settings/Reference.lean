import BoundUpdate.Number.Digits
import BoundUpdate.Value.Basic

namespace BoundUpdate
namespace Reference

/-!
# References to environment variables

A text may refer to variables: a dollar sign and a name in braces stand for the
variable's value, which is nothing when the variable is not set.  A replaced
text is not searched again.  In dictionaries and lists every value is searched,
keys are not, and they must not lie too deep in each other.
-/

/-- Whether a character may start the name of a variable. -/
def startsName (c : Char) : Bool :=
  c == '_' || ('a' ≤ c && c ≤ 'z') || ('A' ≤ c && c ≤ 'Z')

/-- Whether a character may continue the name of a variable. -/
def continuesName (c : Char) : Bool := startsName c || Number.isDigit c

/-- The name in braces at the front of a text whose dollar sign and opening brace are cut off, and
the text after the closing brace. -/
def name? (s : List Char) : Option (List Char × List Char) :=
  match s.takeWhile continuesName, s.dropWhile continuesName with
  | c :: name, '\x7d' :: rest => if startsName c then some (c :: name, rest) else none
  | _, _ => none

theorem name?_length {s name rest : List Char} (h : name? s = some (name, rest)) :
    rest.length < s.length := by
  unfold name? at h
  split at h
  · rename_i c found more _ hdrop
    split at h
    · cases h
      have hle := (List.dropWhile_sublist (p := continuesName) (l := s)).length_le
      rw [hdrop] at hle
      simp at hle
      omega
    · cases h
  · cases h

/-- The value of a variable; nothing when it is not set. -/
def valueOf (environment : List (String × String)) (name : List Char) : List Char :=
  ((environment.lookup (String.ofList name)).getD "").toList

/-- Replace the references in a text. -/
def expand (environment : List (String × String)) : List Char → List Char
  | [] => []
  | '$' :: '\x7b' :: s =>
    match h : name? s with
    | some (name, rest) =>
      have : rest.length < s.length + 2 := Nat.lt_add_right 2 (name?_length h)
      valueOf environment name ++ expand environment rest
    | none => '$' :: expand environment ('\x7b' :: s)
  | c :: rest => c :: expand environment rest
termination_by s => s.length

/-- Replace the references in a text. -/
def expandText (environment : List (String × String)) (s : String) : String :=
  String.ofList (expand environment s.toList)

mutual

/-- Replace the references in a value. -/
def expandValue (environment : List (String × String)) : Value → Value
  | .dict entries => .dict (expandEntries environment entries)
  | .list items => .list (expandItems environment items)
  | .text s => .text (expandText environment s)
  | .enumMember m =>
    match (Value.enumMember m).text? with
    | some s => .text (expandText environment s)
    | none => .enumMember m
  | v => v

/-- Replace the references in the items of a list. -/
def expandItems (environment : List (String × String)) : List Value → List Value
  | [] => []
  | v :: rest => expandValue environment v :: expandItems environment rest

/-- Replace the references in the values of entries. -/
def expandEntries (environment : List (String × String)) :
    List (Value × Value) → List (Value × Value)
  | [] => []
  | (k, v) :: rest => (k, expandValue environment v) :: expandEntries environment rest

end

/-- How many levels of dictionaries and lists are searched when so many calls may lie in each other:
each takes two. -/
def levels (nesting : Nat) : Nat := nesting / 2

/-- A document with its references replaced, unless it lies too deep in itself. -/
def expanded (nesting : Nat) (environment : List (String × String)) (document : Value) :
    Except Failure Value :=
  if document.nestsWithin (levels nesting + 1) then .ok (expandValue environment document)
  else .error (.tooDeep "")

/-- The entries of a description with their references replaced.  Two calls are taken already, as
by the document around it. -/
def expandedEntries (nesting : Nat) (environment : List (String × String))
    (described : Value.Entries) : Except Failure Value.Entries :=
  if (Value.dict described).nestsWithin (levels nesting) then
    .ok (expandEntries environment described)
  else .error (.tooDeep "")

end Reference
end BoundUpdate
