import BoundUpdate.Number.Binary64
import BoundUpdate.Number.IntegerText

namespace BoundUpdate
namespace Number

/-!
# Reading decimal fractions

A real number text is an optional sign, digits with an optional point, and an
optional power of ten.  It denotes an exact decimal, which is then rounded once.
White space around it and low lines in it do not count, and digits of every
script count by their value.
-/

/-- An exact decimal: `± digits * 10 ^ exponent`. -/
structure DecimalLiteral where
  negative : Bool
  digits : Nat
  exponent : Int
  deriving DecidableEq, Repr

/-- A sign in front of a text. -/
def readSign : List Char → Bool × List Char
  | '-' :: rest => (true, rest)
  | '+' :: rest => (false, rest)
  | rest => (false, rest)

/-- The power of ten at the end of a real number text; an empty rest is the power zero. -/
def readPower : List Char → Option Int
  | [] => some 0
  | c :: rest =>
    if c == 'e' || c == 'E' then
      let (negative, ds) := readSign rest
      if !ds.isEmpty && ds.all isDigit then
        some (if negative then -(readDigits ds : Int) else readDigits ds)
      else none
    else none

/-- A real number text as an exact decimal. -/
def readDecimalLiteral (s : List Char) : Option DecimalLiteral :=
  let (negative, body) := readSign s
  let whole := body.takeWhile isDigit
  let rest := body.dropWhile isDigit
  let (fraction, rest) := match rest with
    | '.' :: more => (more.takeWhile isDigit, more.dropWhile isDigit)
    | _ => ([], rest)
  if whole.isEmpty && fraction.isEmpty then none
  else (readPower rest).map fun power =>
    { negative, digits := readDigits (whole ++ fraction), exponent := power - fraction.length }

/-- The plain spelling of a number text: without white space around it and low lines in it, with
ASCII digits and in lower case. -/
def plainSpelling (s : List Char) : List Char :=
  let trimmed := ((s.dropWhile isIntegerBlank).reverse.dropWhile isIntegerBlank).reverse
  (trimmed.filter (· != '_')).map fun c =>
    match digitValue? c with
    | some d => digitChar d
    | none => c.toLower

/-- The word for a number that is not finite. -/
def readWord? (s : List Char) : Option Binary64 :=
  let (negative, word) := readSign s
  if word = "nan".toList then some .nan
  else if word = "inf".toList ∨ word = "infinity".toList then some (.infinity negative)
  else none

/-- A real number text, or one of the words for the numbers that are not finite. -/
def readReal (s : String) : Option Binary64 :=
  let plain := plainSpelling s.toList
  match readWord? plain with
  | some x => some x
  | none => (readDecimalLiteral plain).map fun l => .ofDecimal l.negative l.digits l.exponent

end Number
end BoundUpdate
