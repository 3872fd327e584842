import BoundUpdate.Annotation.Quotation

namespace BoundUpdate
namespace Annotation

/-!
# Fields of formatted texts

A formatted text holds fields between braces; doubled braces stand for single
ones.  A field is an expression, and may show its own text, convert its value
and name a format, in which there may be fields again.
-/

/-- A part of a formatted text as it is written. -/
inductive RawPiece where
  /-- Text whose escapes are still to be replaced. -/
  | escaped (s : List Char)
  /-- Text as it is. -/
  | plain (s : List Char)
  | field (expression : List Char) (conversion : Option Char) (format : List RawPiece)

namespace Field

/-- What is open where the text of an expression is read. -/
structure Opened where
  /-- The quote of the text that is open, and whether it takes three to close it. -/
  quote : Option (Char × Bool) := none
  brackets : List Char := []

/-- The bracket that closes a bracket. -/
def closing (c : Char) : Char :=
  if c = '(' then ')' else if c = '[' then ']' else '\x7d'

/-- Whether a character opens a bracket. -/
def opens (c : Char) : Bool := c == '(' || c == '[' || c == '\x7b'

/-- Whether a character closes a bracket. -/
def closes (c : Char) : Bool := c == ')' || c == ']' || c == '\x7d'

/-- Whether two characters make a comparison, which does not end an expression. -/
def isComparison (c d : Char) : Bool :=
  d == '=' && (c == '!' || c == '=' || c == '<' || c == '>')

/-- Whether a character ends an expression outside of brackets. -/
def ends (c : Char) : Bool := c == '!' || c == ':' || c == '\x7d' || c == '='

/-- The text of an expression up to the character that ends it.  Every step takes a character, so
the length of the text bounds `fuel`. -/
def takeExpression : (fuel : Nat) → Opened → List Char → Option (List Char × List Char)
  | 0, _, _ => none
  | _ + 1, _, [] => none
  | fuel + 1, state, c :: rest =>
    let go := fun (n : Nat) (state : Opened) =>
      (takeExpression fuel state (rest.drop n)).map fun (s, after) => (c :: rest.take n ++ s, after)
    if c = '\\' then none
    else
      match state.quote with
      | some (q, isBlock) =>
        if c ≠ q then go 0 state
        else if !isBlock then go 0 { state with quote := none }
        else if rest.take 2 = [q, q] then go 2 { state with quote := none }
        else go 0 state
      | none =>
        if Quotation.isQuote c then
          if rest.take 2 = [c, c] then go 2 { state with quote := some (c, true) }
          else go 0 { state with quote := some (c, false) }
        else if opens c then go 0 { state with brackets := c :: state.brackets }
        else if c = '#' then none
        else
          match state.brackets, rest with
          | [], d :: _ =>
            if isComparison c d then go 1 state
            else if ends c then some ([], c :: rest)
            else if closes c then none
            else go 0 state
          | [], [] => if ends c then some ([], [c]) else none
          | b :: outer, _ =>
            if closes c then
              if closing b = c then go 0 { state with brackets := outer } else none
            else go 0 state

/-- The conversion in front of a text, if there is one; `none` when it is malformed. -/
def takeConversion : List Char → Option (Option Char × List Char)
  | '!' :: c :: rest => if c = 's' ∨ c = 'r' ∨ c = 'a' then some (some c, rest) else none
  | ['!'] => none
  | rest => some (none, rest)

/-- Whether a character is a blank that may follow the sign of a shown expression. -/
def isSpace (c : Char) : Bool :=
  c == ' ' || c == '\t' || c == '\n' || c == '\x0b' || c == '\x0c' || c == '\r'

/-- The sign of a shown expression in front of a text with the blanks after it. -/
def takeSign : List Char → List Char × List Char
  | '=' :: rest => ('=' :: rest.takeWhile isSpace, rest.dropWhile isSpace)
  | rest => ([], rest)

/-- Whether a text holds nothing but blanks. -/
def isVoid (s : List Char) : Bool :=
  s.all fun c => c == ' ' || c == '\t' || c == '\n' || c == '\x0c'

/-- Text up to the next field, escapes and names skipped; doubled braces outside of a format end a
part of the text.  Answers the text, whether more text follows, and the rest. -/
def takeText (isRaw isFormat : Bool) : (fuel : Nat) → List Char →
    Option (List Char × Bool × List Char)
  | 0, _ => none
  | _ + 1, [] => some ([], false, [])
  | fuel + 1, c :: rest =>
    let go := fun (cs : List Char) (after : List Char) =>
      (takeText isRaw isFormat fuel after).map fun (s, more, after) => (cs ++ s, more, after)
    let brace := fun (before : List Char) (c : Char) (rest : List Char) =>
      if isFormat then some (before, false, c :: rest)
      else if rest.head? = some c then some (before ++ [c], true, rest.drop 1)
      else if c = '\x7d' then none
      else some (before, false, c :: rest)
    if c = '\x7b' ∨ c = '\x7d' then brace [] c rest
    else if c = '\\' ∧ !isRaw then
      match rest with
      | [] => some ([c], false, [])
      | 'N' :: '\x7b' :: more =>
        let name := more.takeWhile (· != '\x7d')
        go (c :: 'N' :: '\x7b' :: name ++ (more.drop name.length).take 1)
          (more.drop (name.length + 1))
      | d :: more => if d = '\x7b' ∨ d = '\x7d' then brace [c] d more else go [c, d] more
    else go [c] rest

/-- The pieces of a text; `level` counts the formats around it, of which there may be one.  The
pieces of a format end in front of a closing brace. -/
def pieces (isRaw : Bool) : (fuel level : Nat) → List Char → Option (List RawPiece × List Char)
  | 0, _, _ => none
  | fuel + 1, level, s => do
    let (text, more, rest) ← takeText isRaw (level != 0) (s.length + 1) s
    let front := if text.isEmpty then [] else [RawPiece.escaped text]
    if more then
      let (others, after) ← pieces isRaw fuel level rest
      return (front ++ others, after)
    match rest with
    | '\x7b' :: rest =>
      if 2 ≤ level then none
      else
        let (expression, rest) ← takeExpression (rest.length + 1) {} rest
        if isVoid expression then none
        let (sign, rest) := takeSign rest
        let (conversion, rest) ← takeConversion rest
        let (format, rest) ← match rest with
          | ':' :: rest =>
            (pieces isRaw fuel (level + 1) rest).map fun (ps, after) => (some ps, after)
          | rest => some (none, rest)
        match rest with
        | '\x7d' :: rest =>
          let shown := if sign.isEmpty then [] else [RawPiece.plain (expression ++ sign)]
          let conversion :=
            if !sign.isEmpty && conversion.isNone && format.isNone then some 'r' else conversion
          let (others, after) ← pieces isRaw fuel level rest
          return (front ++ shown ++ .field expression conversion (format.getD []) :: others, after)
        | _ => none
    | rest => return (front, rest)

end Field

/-- The pieces of a formatted quotation. -/
def Quotation.pieces (q : Quotation) : Option (List RawPiece) :=
  match Field.pieces q.isRaw (q.body.length + 1) 0 q.body with
  | some (ps, []) => some ps
  | _ => none

end Annotation
end BoundUpdate
