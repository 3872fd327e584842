import BoundUpdate.Text.Hexadecimal
import BoundUpdate.Text.Utf8

namespace BoundUpdate
namespace Text

/-!
# Percent escapes

In an address a percent sign and two hexadecimal digits stand for a byte.  Runs
of ASCII characters are read as bytes of UTF-8 text after their escapes are
replaced; a percent sign without two digits stands for itself.
-/

/-- The bytes that a run of ASCII characters stands for. -/
def escapedBytes : List Char → List UInt8
  | [] => []
  | '%' :: a :: b :: rest =>
    match hexValue? a, hexValue? b with
    | some x, some y => UInt8.ofNat (16 * x + y) :: escapedBytes rest
    | _, _ => 37 :: escapedBytes (a :: b :: rest)
  | c :: rest => UInt8.ofNat c.toNat :: escapedBytes rest

/-- Replace escapes; `run` holds the ASCII characters read since the last other character, last
one first. -/
def unescapeFrom (run : List Char) : List Char → List Char
  | [] => Utf8.decodeTolerant (escapedBytes run.reverse)
  | c :: rest =>
    if c.toNat < 128 then unescapeFrom (c :: run) rest
    else Utf8.decodeTolerant (escapedBytes run.reverse) ++ c :: unescapeFrom [] rest

/-- A text with its escapes replaced. -/
def unescape (s : List Char) : List Char := unescapeFrom [] s

/-- A text of a query: a plus sign stands for a space. -/
def unescapeQuery (s : List Char) : List Char :=
  unescape (s.map fun c => if c = '+' then ' ' else c)

@[simp]
theorem unescape_nil : unescape [] = [] := by
  simp [unescape, unescapeFrom, escapedBytes, Utf8.decodeTolerant, Utf8.pieces]

end Text
end BoundUpdate
