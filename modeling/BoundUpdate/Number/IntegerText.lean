import BoundUpdate.Number.Digits
import BoundUpdate.Text.Blank

namespace BoundUpdate
namespace Number

/-!
# Integers written as text

An integer text is an optional sign and a run of digits, with white space
around it and single low lines between digits allowed.  Digits of every script
count by their value.  A number of more than 4300 digits is refused, leading
zeros counted, and so is writing one.
-/

/-- The most digits that are read or written. -/
def digitLimit : Nat := 4300

/-- The zero of each run of ten decimal digits outside ASCII. -/
def foreignZeros : List Nat :=
  [0x660, 0x6F0, 0x7C0, 0x966, 0x9E6, 0xA66, 0xAE6, 0xB66, 0xBE6, 0xC66, 0xCE6, 0xD66, 0xDE6,
   0xE50, 0xED0, 0xF20, 0x1040, 0x1090, 0x17E0, 0x1810, 0x1946, 0x19D0, 0x1A80, 0x1A90, 0x1B50,
   0x1BB0, 0x1C40, 0x1C50, 0xA620, 0xA8D0, 0xA900, 0xA9D0, 0xA9F0, 0xAA50, 0xABF0, 0xFF10,
   0x104A0, 0x10D30, 0x11066, 0x110F0, 0x11136, 0x111D0, 0x112F0, 0x11450, 0x114D0, 0x11650,
   0x116C0, 0x11730, 0x118E0, 0x11950, 0x11C50, 0x11D50, 0x11DA0, 0x16A60, 0x16AC0, 0x16B50,
   0x1D7CE, 0x1D7D8, 0x1D7E2, 0x1D7EC, 0x1D7F6, 0x1E140, 0x1E2F0, 0x1E950, 0x1FBF0]

/-- The value of a decimal digit of any script. -/
def digitValue? (c : Char) : Option Nat :=
  if isDigit c then some (digitValue c)
  else (foreignZeros.find? fun first => first ≤ c.toNat && c.toNat ≤ first + 9).map (c.toNat - ·)

/-- Why a text is not an integer. -/
inductive IntegerFault where
  | malformed
  | tooLong (digits : Nat)
  deriving DecidableEq, Repr

/-- The blanks allowed around an integer: the ASCII white space and every blank outside ASCII. -/
def isIntegerBlank (c : Char) : Bool :=
  c == ' ' || (9 ≤ c.toNat && c.toNat ≤ 13) || (127 ≤ c.toNat && Text.isBlank c)

/-- Digits with single low lines between them. -/
def groupedDigits : List Char → Option (List Nat)
  | [] => none
  | [c] => (digitValue? c).map ([·])
  | c :: '_' :: rest => do return (← digitValue? c) :: (← groupedDigits rest)
  | c :: rest => do return (← digitValue? c) :: (← groupedDigits rest)

/-- An unsigned integer text. -/
def readUnsigned (s : List Char) : Except IntegerFault Nat :=
  match groupedDigits s with
  | none => .error .malformed
  | some ds => if ds.length ≤ digitLimit then .ok (ofDigits ds) else .error (.tooLong ds.length)

/-- An integer text. -/
def readInteger (s : List Char) : Except IntegerFault Int :=
  match ((s.dropWhile isIntegerBlank).reverse.dropWhile isIntegerBlank).reverse with
  | '-' :: rest => (readUnsigned rest).map fun n => -(n : Int)
  | '+' :: rest => (readUnsigned rest).map fun n => (n : Int)
  | rest => (readUnsigned rest).map fun n => (n : Int)

/-- Whether an integer has few enough digits to be written. -/
def isWritable (n : Int) : Bool := (digits n.natAbs).length ≤ digitLimit

end Number
end BoundUpdate
