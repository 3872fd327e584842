import BoundUpdate.Text.Hexadecimal
import BoundUpdate.Text.Printable.Ranges

namespace BoundUpdate
namespace Text

/-!
# Quoted texts

A text shown inside a message stands between quotes.  Single quotes are used
unless the text holds a single quote and no double quote.  The quote in use and
the backslash are escaped by a backslash, the three common controls have short
escapes, and every other hidden character is written by its code point in two,
four or eight hexadecimal digits.
-/

/-- Whether a character is written by its code point. -/
def isHidden (c : Char) : Bool := hiddenRanges.covers c.toNat

/-- One character of a quoted text. -/
def escape (quote c : Char) : List Char :=
  if c == quote || c == '\\' then ['\\', c]
  else if c == '\t' then ['\\', 't']
  else if c == '\n' then ['\\', 'n']
  else if c == '\r' then ['\\', 'r']
  else if isHidden c then
    if c.toNat < 0x100 then '\\' :: 'x' :: hexDigits 2 c.toNat
    else if c.toNat < 0x10000 then '\\' :: 'u' :: hexDigits 4 c.toNat
    else '\\' :: 'U' :: hexDigits 8 c.toNat
  else [c]

/-- The quote that a text is shown with. -/
def quoteFor (s : List Char) : Char :=
  if s.contains '\'' && !s.contains '"' then '"' else '\''

/-- A text between quotes. -/
def quoteChars (s : List Char) : List Char :=
  let quote := quoteFor s
  quote :: s.flatMap (escape quote) ++ [quote]

/-- A text between quotes. -/
def quote (s : String) : String := String.ofList (quoteChars s.toList)

/-- One byte of a quoted byte text: outside printable ASCII it is a two digit escape. -/
def escapeByte (quote : Char) (b : UInt8) : List Char :=
  let c := Char.ofNat b.toNat
  if c == quote || c == '\\' then ['\\', c]
  else if c == '\t' then ['\\', 't']
  else if c == '\n' then ['\\', 'n']
  else if c == '\r' then ['\\', 'r']
  else if b.toNat < 0x20 || b.toNat ≥ 0x7F then '\\' :: 'x' :: hexDigits 2 b.toNat
  else [c]

/-- A byte text between quotes, marked by a `b` in front. -/
def quoteBytes (bytes : List UInt8) : String :=
  let quote := quoteFor (bytes.map fun b => Char.ofNat b.toNat)
  String.ofList ('b' :: quote :: bytes.flatMap (escapeByte quote) ++ [quote])

end Text
end BoundUpdate
