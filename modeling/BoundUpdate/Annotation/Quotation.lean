import BoundUpdate.Annotation.Numeral
import BoundUpdate.Text.CharacterName
import BoundUpdate.Text.Percent

namespace BoundUpdate
namespace Annotation

/-!
# Quotations

A quotation is a text between quotes, with letters in front that tell how it is
read: as bytes, without escapes, or with expressions inside.  An escape is a
backslash and what follows it; a backslash that starts no escape stands for
itself.
-/

/-- A quoted text as it is written, without its quotes. -/
structure Quotation where
  /-- Whether it spells bytes. -/
  isBytes : Bool := false
  /-- Whether backslashes stand for themselves. -/
  isRaw : Bool := false
  /-- Whether it holds expressions between braces. -/
  isFormatted : Bool := false
  body : List Char
  deriving DecidableEq, Repr

namespace Quotation

/-! ## Finding the end -/

/-- The rest of a text up to its closing quote and the text after it.  A text between single
quotes ends with its line. -/
def takeLine (quote : Char) : List Char → Option (List Char × List Char)
  | [] => none
  | c :: rest =>
    if c = quote then some ([], rest)
    else if c = '\n' then none
    else if c = '\\' then
      match rest with
      | d :: more => (takeLine quote more).map fun (s, after) => (c :: d :: s, after)
      | [] => none
    else (takeLine quote rest).map fun (s, after) => (c :: s, after)

/-- The rest of a text up to three closing quotes and the text after them. -/
def takeBlock (quote : Char) : List Char → Option (List Char × List Char)
  | [] => none
  | c :: rest =>
    if c = quote ∧ rest.take 2 = [quote, quote] then some ([], rest.drop 2)
    else if c = '\\' then
      match rest with
      | d :: more => (takeBlock quote more).map fun (s, after) => (c :: d :: s, after)
      | [] => none
    else (takeBlock quote rest).map fun (s, after) => (c :: s, after)

/-- The text between quotes at the front of a text, and the text after it. -/
def takeBody : List Char → Option (List Char × List Char)
  | q :: rest =>
    match rest with
    | a :: b :: more =>
      if a = q ∧ b = q then takeBlock q more
      else if a = q then some ([], b :: more)
      else takeLine q rest
    | rest => takeLine q rest
  | [] => none

/-- Whether a character opens a quotation. -/
def isQuote (c : Char) : Bool := c == '\'' || c == '"'

/-- The letters that may stand in front of a quotation, in lower case. -/
def markers : List String := ["", "r", "b", "br", "rb", "u", "f", "fr", "rf"]

/-- The marker of a quotation at the front of a text, in lower case, and the text after it. -/
def takeMarker (s : List Char) : Option (List Char × List Char) :=
  let marker := (s.takeWhile Char.isAlpha).map Char.toLower
  match s.drop marker.length with
  | q :: rest =>
    if isQuote q && markers.contains (String.ofList marker) then some (marker, q :: rest) else none
  | [] => none

/-- The quotation at the front of a text, if one starts there and ends, and the text after it. -/
def take (s : List Char) : Option (Option (Quotation × List Char)) :=
  (takeMarker s).map fun (marker, rest) =>
    (takeBody rest).map fun (body, after) =>
      ({ isBytes := marker.contains 'b'
         isRaw := marker.contains 'r'
         isFormatted := marker.contains 'f'
         body }, after)

/-! ## Escapes -/

/-- The characters that a letter after a backslash stands for. -/
def letterEscapes : List (Char × Nat) :=
  [('a', 7), ('b', 8), ('t', 9), ('n', 10), ('v', 11), ('f', 12), ('r', 13)]

/-- Whether a character is a digit of base eight. -/
def isOctal (c : Char) : Bool := '0' ≤ c && c ≤ '7'

/-- Exactly `count` digits of base sixteen at the front of a text, and the text after them. -/
def takeHex (count : Nat) (s : List Char) : Option (Nat × List Char) :=
  let ds := s.take count
  if ds.length = count ∧ ds.all (Numeral.isDigitOf 16) then
    some (Numeral.ofDigits 16 ds, s.drop count)
  else none

/-- The character of a code point; code points that are no characters become the replacement
character. -/
def charOf (code : Nat) : Char := if code.isValidChar then Char.ofNat code else '\ufffd'

/-- The character that a code point after a backslash stands for, if it is in range. -/
def coded (count : Nat) (rest : List Char) : Option (List Char × List Char) :=
  match takeHex count rest with
  | some (code, after) => if code < 0x110000 then some ([charOf code], after) else none
  | none => none

/-- The character that a name between braces stands for. -/
def named (rest : List Char) : Option (List Char × List Char) :=
  match rest with
  | '\x7b' :: more =>
    let name := more.takeWhile (· != '\x7d')
    match more.drop name.length, Text.namedCharacter? name with
    | _ :: after, some c => some ([c], after)
    | _, _ => none
  | _ => none

/-- What stands for the text after a backslash: the characters of the escape and the rest.  Escapes
of code points beyond a byte and of names are for texts only; a backslash at the end of a part
stands for itself. -/
def escape (isBytes : Bool) (rest : List Char) : Option (List Char × List Char) :=
  match rest with
  | [] => some (['\\'], [])
  | c :: more =>
    if c = '\n' then some ([], more)
    else if c = '\\' ∨ isQuote c then some ([c], more)
    else if isOctal c then
      let ds := (c :: more.take 2).takeWhile isOctal
      let code := Numeral.ofDigits 8 ds
      some ([charOf (if isBytes then code % 256 else code)], rest.drop ds.length)
    else if c = 'x' then coded 2 more
    else if c = 'u' ∧ !isBytes then coded 4 more
    else if c = 'U' ∧ !isBytes then coded 8 more
    else if c = 'N' ∧ !isBytes then named more
    else
      match letterEscapes.lookup c with
      | some code => some ([Char.ofNat code], more)
      | none => some (['\\', c], more)

/-- A text with its escapes replaced; `fuel` bounds the number of its characters. -/
def unescapeWithin (isBytes : Bool) : (fuel : Nat) → List Char → Option (List Char)
  | _, [] => some []
  | 0, _ :: _ => none
  | fuel + 1, c :: rest =>
    if c = '\\' then
      match escape isBytes rest with
      | some (cs, after) => (unescapeWithin isBytes fuel after).map (cs ++ ·)
      | none => none
    else (unescapeWithin isBytes fuel rest).map (c :: ·)

/-- A text with its escapes replaced; `none` when an escape is malformed. -/
def unescape (isBytes : Bool) (s : List Char) : Option (List Char) :=
  unescapeWithin isBytes s.length s

/-- The characters that a part of a quotation spells. -/
def spelled (q : Quotation) (part : List Char) : Option (List Char) :=
  if q.isBytes ∧ part.any (128 ≤ ·.toNat) then none
  else if q.isRaw then some part
  else unescape q.isBytes part

end Quotation
end Annotation
end BoundUpdate
