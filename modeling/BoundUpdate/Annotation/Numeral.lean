import BoundUpdate.Number.Binary64
import BoundUpdate.Number.IntegerText

namespace BoundUpdate
namespace Annotation

/-!
# Numerals

A numeral is an integer of base ten, sixteen, eight or two, a real number or an
imaginary one.  Single underscores may stand between digits.  A numeral ends
where its digits end; what follows may be one of the words that join
expressions, but no other letter.
-/

/-- A number as it is spelled in an expression; signs are operators. -/
inductive Numeral where
  | integer (n : Nat)
  | real (x : Number.Binary64)
  | imaginary (x : Number.Binary64)
  deriving DecidableEq, Repr

namespace Numeral

/-- Digits at the front of a text and the text after them.  An underscore must stand between two
digits; the digit before the text counts. -/
def takeDigits (isDigit : Char → Bool) : List Char → Option (List Char × List Char)
  | [] => some ([], [])
  | '_' :: c :: rest =>
    if isDigit c then (takeDigits isDigit rest).map fun (ds, after) => (c :: ds, after) else none
  | c :: rest =>
    if c = '_' then none
    else if isDigit c then
      (takeDigits isDigit rest).map fun (ds, after) => (c :: ds, after)
    else some ([], c :: rest)

/-- The value of a digit in bases up to sixteen. -/
def digitValue (c : Char) : Nat :=
  if Number.isDigit c then c.toNat - 48
  else if 97 ≤ c.toNat then c.toNat - 87
  else c.toNat - 55

/-- Whether a character is a digit of a base up to sixteen. -/
def isDigitOf (base : Nat) (c : Char) : Bool :=
  (Number.isDigit c || ('a' ≤ c && c ≤ 'f') || ('A' ≤ c && c ≤ 'F')) && digitValue c < base

/-- The number that digits of a base spell. -/
def ofDigits (base : Nat) (ds : List Char) : Nat := ds.foldl (fun n c => base * n + digitValue c) 0

/-- Whether a character may stand in a word: a letter, a digit, an underscore or any character
beyond ASCII. -/
def isWordChar (c : Char) : Bool := c.isAlphanum || c == '_' || 128 ≤ c.toNat

/-- The words that may follow a numeral without a blank. -/
def joiningWords : List String := ["and", "else", "for", "if", "in", "is", "not", "or"]

/-- Whether a numeral may end in front of a text. -/
def endsBefore (rest : List Char) : Bool :=
  match rest with
  | [] => true
  | c :: _ => !isWordChar c || joiningWords.any fun word => word.toList.isPrefixOf rest

/-- A numeral in front of a text, if it may end there. -/
def ending (n : Numeral) (rest : List Char) : Option (Numeral × List Char) :=
  if endsBefore rest then some (n, rest) else none

/-- A real number, or an imaginary one when the unit follows. -/
def takeUnit (digits : List Char) (exponent : Int) (rest : List Char) :
    Option (Numeral × List Char) :=
  let x := Number.Binary64.ofDecimal false (Number.readDigits digits) exponent
  match rest with
  | 'j' :: more => ending (.imaginary x) more
  | 'J' :: more => ending (.imaginary x) more
  | rest => ending (.real x) rest

/-- The exponent in front of a text: its sign and digits; `none` when there is none. -/
def exponentSign? : List Char → Option (Bool × List Char)
  | '+' :: rest => some (false, rest)
  | '-' :: rest => some (true, rest)
  | c :: rest => if Number.isDigit c then some (false, c :: rest) else none
  | [] => none

/-- What follows the digits of a number that has a point or an exponent; `plain` is the numeral
when neither an exponent nor the unit follows. -/
def takeExponent (plain : Numeral) (digits : List Char) (scale : Nat) (rest : List Char) :
    Option (Numeral × List Char) :=
  match rest with
  | c :: more =>
    if c = 'e' ∨ c = 'E' then
      match exponentSign? more with
      | none => ending plain rest
      | some (negative, more) =>
        match takeDigits Number.isDigit more with
        | some (d :: ds, after) =>
          let n : Int := Number.readDigits (d :: ds)
          takeUnit digits ((if negative then -n else n) - scale) after
        | _ => none
    else if c = 'j' ∨ c = 'J' then takeUnit digits (-(scale : Int)) rest
    else ending plain rest
  | [] => ending plain rest

/-- A number with a point before `rest`. -/
def takeFraction (whole : List Char) (rest : List Char) : Option (Numeral × List Char) :=
  let (fraction?, rest) := match rest with
    | c :: _ =>
      if Number.isDigit c then
        match takeDigits Number.isDigit rest with
        | some (ds, after) => (some ds, after)
        | none => (none, rest)
      else (some [], rest)
    | [] => (some [], rest)
  match fraction? with
  | none => none
  | some fraction =>
    let digits := whole ++ fraction
    let x := Number.Binary64.ofDecimal false (Number.readDigits digits) (-(fraction.length : Int))
    takeExponent (.real x) digits fraction.length rest

/-- An integer of base ten; it must not start with a zero unless it is zero, and it must not have
too many digits. -/
def plainInteger (digits : List Char) : Option Nat :=
  let leading := digits.head? == some '0' && digits.any (· != '0')
  if leading || Number.digitLimit < digits.length then none else some (Number.readDigits digits)

/-- A number of base ten. -/
def takeDecimal (s : List Char) : Option (Numeral × List Char) :=
  match takeDigits Number.isDigit s with
  | none => none
  | some (digits, '.' :: rest) => takeFraction digits rest
  | some (digits, rest) =>
    match plainInteger digits with
    | some n => takeExponent (.integer n) digits 0 rest
    | none =>
      match takeExponent (.integer 0) digits 0 rest with
      | some (.integer _, _) => none
      | other => other

/-- An integer of another base. -/
def takeRadix (base : Nat) (s : List Char) : Option (Numeral × List Char) :=
  match takeDigits (isDigitOf base) s with
  | some (d :: ds, rest) => ending (.integer (ofDigits base (d :: ds))) rest
  | _ => none

/-- The base that a letter after a zero announces. -/
def base? (c : Char) : Option Nat :=
  if c = 'x' ∨ c = 'X' then some 16
  else if c = 'o' ∨ c = 'O' then some 8
  else if c = 'b' ∨ c = 'B' then some 2
  else none

/-- The numeral at the front of a text that starts with a digit, or with a point and a digit. -/
def take (s : List Char) : Option (Numeral × List Char) :=
  match s with
  | '.' :: rest => takeFraction [] rest
  | '0' :: c :: rest =>
    match base? c with
    | some base => takeRadix base rest
    | none => takeDecimal s
  | s => takeDecimal s

/-- Whether a numeral starts at the front of a text. -/
def startsAt : List Char → Bool
  | '.' :: c :: _ => Number.isDigit c
  | c :: _ => Number.isDigit c
  | [] => false

end Numeral
end Annotation
end BoundUpdate
