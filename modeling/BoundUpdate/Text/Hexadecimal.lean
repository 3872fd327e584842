namespace BoundUpdate
namespace Text

/-!
# Hexadecimal digits

Digits are written in lower case and read in either case.  Bytes are written
as two digits each; between the digits of two bytes blanks may stand.
-/

/-- A lower case hexadecimal digit. -/
def hexDigit (n : Nat) : Char :=
  if n < 10 then Char.ofNat (48 + n) else Char.ofNat (87 + n)

/-- The lowest `width` hexadecimal digits of a number. -/
def hexDigits : (width : Nat) → (n : Nat) → List Char
  | 0, _ => []
  | width + 1, n => hexDigits width (n / 16) ++ [hexDigit (n % 16)]

/-- The value of a hexadecimal digit. -/
def hexValue? (c : Char) : Option Nat :=
  if '0' ≤ c ∧ c ≤ '9' then some (c.toNat - 48)
  else if 'a' ≤ c ∧ c ≤ 'f' then some (c.toNat - 87)
  else if 'A' ≤ c ∧ c ≤ 'F' then some (c.toNat - 55)
  else none

theorem hexValue?_hexDigit {n : Nat} (h : n < 16) : hexValue? (hexDigit n) = some n := by
  revert n
  decide

/-- Whether a character may stand between the digits of two bytes. -/
def separatesBytes (c : Char) : Bool := c == ' ' || ('\t' ≤ c && c ≤ '\r')

/-- The bytes that digits spell. -/
def bytesOfHex? : List Char → Option (List UInt8)
  | [] => some []
  | a :: b :: rest =>
    if separatesBytes a then bytesOfHex? (b :: rest)
    else do
      let x ← hexValue? a
      let y ← hexValue? b
      return UInt8.ofNat (16 * x + y) :: (← bytesOfHex? rest)
  | [a] => if separatesBytes a then some [] else none

/-- The digits of bytes. -/
def hexOfBytes (bytes : List UInt8) : List Char := bytes.flatMap fun b => hexDigits 2 b.toNat

end Text
end BoundUpdate
