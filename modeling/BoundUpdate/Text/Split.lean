namespace BoundUpdate
namespace Text

/-!
# Cutting texts at separators

A text is cut at every separator, at the first one or at the last one.  Cutting
at every separator loses nothing: joining the parts with the separator gives
the text back.
-/

/-- The parts between separators; a text without separator is one part. -/
def splitOn (separator : Char) : List Char → List (List Char)
  | [] => [[]]
  | c :: rest =>
    if c = separator then [] :: splitOn separator rest
    else
      match splitOn separator rest with
      | part :: parts => (c :: part) :: parts
      | [] => [[c]]

/-- The text before the first separator and the text after it. -/
def cut? (separator : Char) : List Char → Option (List Char × List Char)
  | [] => none
  | c :: rest =>
    if c = separator then some ([], rest)
    else (cut? separator rest).map fun (before, after) => (c :: before, after)

/-- The text before the last separator and the text after it. -/
def cutLast? (separator : Char) (s : List Char) : Option (List Char × List Char) :=
  (cut? separator s.reverse).map fun (after, before) => (before.reverse, after.reverse)

/-- The text before the first separator, or the whole text. -/
def before (separator : Char) (s : List Char) : List Char := s.takeWhile (· != separator)

/-- Whether a text starts with another one. -/
def startsWith (s start : List Char) : Bool := start.isPrefixOf s

/-- Whether a text occurs in another one. -/
def occursIn (part : List Char) : List Char → Bool
  | [] => part.isEmpty
  | c :: rest => part.isPrefixOf (c :: rest) || occursIn part rest

/-- Join parts with a separator. -/
def join (separator : Char) : List (List Char) → List Char
  | [] => []
  | [part] => part
  | part :: parts => part ++ separator :: join separator parts

theorem splitOn_ne_nil (separator : Char) (s : List Char) : splitOn separator s ≠ [] := by
  cases s with
  | nil => simp [splitOn]
  | cons c rest =>
    rw [splitOn]
    split
    · simp
    · split <;> simp

theorem join_cons_cons (separator c : Char) (part : List Char) (parts : List (List Char)) :
    join separator ((c :: part) :: parts) = c :: join separator (part :: parts) := by
  cases parts <;> simp [join]

/-- Cutting at every separator loses nothing. -/
theorem join_splitOn (separator : Char) (s : List Char) :
    join separator (splitOn separator s) = s := by
  induction s with
  | nil => rfl
  | cons c rest ih =>
    rw [splitOn]
    split
    · next h =>
      have hne := splitOn_ne_nil separator rest
      cases hs : splitOn separator rest with
      | nil => exact absurd hs hne
      | cons part parts => simp [join, ← hs, ih, h]
    · split
      · next part parts hs => rw [join_cons_cons, ← hs, ih]
      · next hs => exact absurd hs (splitOn_ne_nil separator rest)

end Text
end BoundUpdate
