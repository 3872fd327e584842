import BoundUpdate.Text.CodeRanges

namespace BoundUpdate
namespace Text

/-!
# Blank characters and trimming

A blank is any character that Unicode 14.0 treats as white space, together with
the four information separators.  Trimming removes a maximal run of blanks from
one end or from both; nothing inside the text changes.
-/

/-- Code points of the blank characters. -/
def blankRanges : CodeRanges :=
  [(0x9, 0xD), (0x1C, 0x20), (0x85, 0x85), (0xA0, 0xA0), (0x1680, 0x1680), (0x2000, 0x200A),
   (0x2028, 0x2029), (0x202F, 0x202F), (0x205F, 0x205F), (0x3000, 0x3000)]

/-- Whether a character counts as white space. -/
def isBlank (c : Char) : Bool := blankRanges.covers c.toNat

/-- Drop the blanks at the start. -/
def trimStart (s : List Char) : List Char := s.dropWhile isBlank

/-- Drop the blanks at the end. -/
def trimEnd (s : List Char) : List Char := (s.reverse.dropWhile isBlank).reverse

/-- Drop the blanks at both ends. -/
def trim (s : List Char) : List Char := trimEnd (trimStart s)

@[simp]
theorem trimStart_nil : trimStart [] = [] := rfl

@[simp]
theorem trimEnd_nil : trimEnd [] = [] := rfl

/-- Trimming never makes a text longer. -/
theorem trimEnd_length_le (s : List Char) : (trimEnd s).length ≤ s.length := by
  simpa [trimEnd] using (List.dropWhile_sublist (p := isBlank) (l := s.reverse)).length_le

end Text
end BoundUpdate
