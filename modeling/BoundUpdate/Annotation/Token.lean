import BoundUpdate.Annotation.Quotation
import BoundUpdate.Text.Compatibility
import BoundUpdate.Text.Identifier
import BoundUpdate.Text.Utf8

namespace BoundUpdate
namespace Annotation

/-!
# Tokens of annotations

The text of an annotation is cut into names, numerals, quotations and symbols.
Lines end a text unless a bracket is open or a backslash joins them; blanks and
comments between tokens are dropped.  Only so many brackets may be open at once.  A line that starts
with blanks and holds more than a comment is indented, which no annotation may be.
-/

/-- A piece of an expression's text. -/
inductive Token where
  | name (s : String)
  | numeral (n : Numeral)
  | quotation (q : Quotation)
  | symbol (s : String)
  | newline
  /-- Blanks at the start of a line. -/
  | indent
  deriving DecidableEq, Repr

/-- The symbols that consist of several characters, longest first. -/
def longSymbols : List String :=
  ["...", "**", "//", "<<", ">>", "==", "!=", "<=", ">=", ":="]

/-- The symbols that are one character. -/
def shortSymbols : List Char := "()[]\x7b\x7d,.:|^&+-*/%@~<>=".toList

/-- The symbol at the front of a text. -/
def takeSymbol (s : List Char) : Option (String × List Char) :=
  match longSymbols.find? fun symbol => symbol.toList.isPrefixOf s, s with
  | some symbol, _ => some (symbol, s.drop symbol.length)
  | none, c :: rest => if shortSymbols.contains c then some (String.ofList [c], rest) else none
  | none, [] => none

/-- The token at the front of a text that starts with neither a blank nor a line end. -/
def takeToken (s : List Char) : Option (Token × List Char) :=
  match Quotation.take s, s with
  | some (some (q, after)), _ => some (.quotation q, after)
  | some none, _ => none
  | none, [] => none
  | none, c :: _ =>
    if Numeral.startsAt s then
      (Numeral.take s).map fun (n, after) => (.numeral n, after)
    else if Text.isIdentifierStart c then
      some (.name (Text.plainForm (s.takeWhile Text.isIdentifierContinue)),
        s.dropWhile Text.isIdentifierContinue)
    else (takeSymbol s).map fun (symbol, after) => (.symbol symbol, after)

/-- Whether a character separates tokens on a line. -/
def separates (c : Char) : Bool := c == ' ' || c == '\t' || c == '\x0c'

/-- The nesting of brackets after a token. -/
def nestingAfter (nesting : Nat) : Token → Nat
  | .symbol s =>
    if s = "(" ∨ s = "[" ∨ s = "\x7b" then nesting + 1
    else if s = ")" ∨ s = "]" ∨ s = "\x7d" then nesting - 1
    else nesting
  | _ => nesting

/-- How many brackets may be open at once. -/
def bracketLimit : Nat := 200

/-- The width of the blanks at the start of a line and the text after them.  A form feed starts the
line again; a backslash joins the next line, and the first one decides the width unless that is
zero. -/
def lineStart (width joined : Nat) : List Char → Option (Nat × List Char)
  | ' ' :: rest => lineStart (width + 1) joined rest
  | '\t' :: rest => lineStart (width / 8 * 8 + 8) joined rest
  | '\x0c' :: rest => lineStart 0 joined rest
  | '\\' :: '\n' :: c :: rest => lineStart width (if joined = 0 then width else joined) (c :: rest)
  | '\\' :: _ => none
  | rest => some (if joined = 0 then width else joined, rest)

/-- Whether nothing but a comment stands on a line; a text that ends without a line end holds an
unfinished line. -/
def isVacant : List Char → Bool
  | c :: _ => c == '\n' || c == '#'
  | [] => false

/-- The state of cutting a text into tokens. -/
structure Cutting where
  nesting : Nat := 0
  /-- Whether a line starts here. -/
  atStart : Bool := true
  /-- Whether nothing has been found on the line yet but blanks and comments. -/
  vacant : Bool := false

/-- The tokens of a text.  Every step takes at least one character or the start of a line, so `fuel`
need not exceed twice the length of the text. -/
def tokensFrom (fuel : Nat) (state : Cutting) (s : List Char) : Option (List Token) :=
  match fuel with
  | 0 => none
  | fuel + 1 =>
    if state.atStart then
      match lineStart 0 0 s with
      | none => none
      | some (width, rest) =>
        let vacant := isVacant rest
        let next := { state with atStart := false, vacant }
        if !vacant && state.nesting == 0 && width != 0 then
          (tokensFrom fuel next rest).map (.indent :: ·)
        else tokensFrom fuel next rest
    else
      match s.dropWhile separates with
      | [] => if state.nesting = 0 then some [] else none
      | '#' :: rest => tokensFrom fuel state (rest.dropWhile (· != '\n'))
      | '\n' :: rest =>
        let next := { state with atStart := true }
        if state.vacant || state.nesting != 0 then tokensFrom fuel next rest
        else (tokensFrom fuel next rest).map (.newline :: ·)
      | '\\' :: '\n' :: c :: rest => tokensFrom fuel state (c :: rest)
      | s =>
        match takeToken s with
        | none => none
        | some (token, rest) =>
          let nesting := nestingAfter state.nesting token
          if bracketLimit < nesting then none
          else (tokensFrom fuel { state with nesting, vacant := false } rest).map (token :: ·)

/-- The tokens of a text; every kind of line end counts as one. -/
def tokens (s : List Char) : Option (List Token) :=
  let s := Text.unifyLines s
  tokensFrom (2 * s.length + 2) {} s

end Annotation
end BoundUpdate
