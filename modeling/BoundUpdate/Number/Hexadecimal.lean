import BoundUpdate.Number.RealText
import BoundUpdate.Text.Percent
import BoundUpdate.Text.Quoted

namespace BoundUpdate
namespace Number
namespace Binary64

/-!
# Hexadecimal notation of binary numbers

A number is written without rounding: one binary digit, thirteen hexadecimal
digits behind the point, and a power of two.  Any number of hexadecimal digits
and any power are read, and the value is rounded once.
-/

/-- The hexadecimal notation of a number. -/
def hexText : Binary64 → String
  | .nan => "nan"
  | .infinity negative => if negative then "-inf" else "inf"
  | .finite negative m e =>
    let sign := if negative then "-" else ""
    if m = 0 then sign ++ "0x0.0p+0"
    else
      let power := e + 52
      sign ++ "0x" ++ (if m < Nat.pow 2 52 then "0." else "1.") ++
        String.ofList (Text.hexDigits 13 m) ++ "p" ++ (if power < 0 then "-" else "+") ++
        natText power.natAbs

/-- The power of two behind hexadecimal digits. -/
def readBinaryPower : List Char → Option Int
  | [] => some 0
  | c :: rest =>
    if c = 'p' ∨ c = 'P' then
      let (negative, ds) := readSign rest
      if !ds.isEmpty && ds.all isDigit then
        some (if negative then -(readDigits ds : Int) else readDigits ds)
      else none
    else none

/-- The number nearest to `± digits * 2 ^ power`.  Powers far outside the range are decided without
computing them. -/
def ofBinary (negative : Bool) (digits : Nat) (power : Int) : Binary64 :=
  let magnitude : Int := power + digits.log2
  if digits = 0 ∨ magnitude < -1200 then zero negative
  else if 1200 < magnitude then .infinity negative
  else if 0 ≤ power then ofRatio negative (digits * Nat.pow 2 power.toNat) 1
  else ofRatio negative digits (Nat.pow 2 (-power).toNat)

/-- The number that a hexadecimal notation means; the mark in front of the digits may be missing. -/
def ofHexText? (s : List Char) : Option Binary64 :=
  let (negative, body) := readSign s
  let word := String.ofList (body.map Char.toLower)
  if word = "nan" then some .nan
  else if word = "inf" ∨ word = "infinity" then some (.infinity negative)
  else
    let body := match body with
      | '0' :: 'x' :: rest => rest
      | '0' :: 'X' :: rest => rest
      | body => body
    let isHex := fun (c : Char) => (Text.hexValue? c).isSome
    let whole := body.takeWhile isHex
    let rest := body.drop whole.length
    let (behind, rest) := match rest with
      | '.' :: rest => (rest.takeWhile isHex, rest.dropWhile isHex)
      | rest => ([], rest)
    let ds := (whole ++ behind).filterMap Text.hexValue?
    if ds.isEmpty then none
    else
      (readBinaryPower rest).map fun power =>
        ofBinary negative (ds.foldl (fun n d => 16 * n + d) 0) (power - 4 * behind.length)

end Binary64
end Number
end BoundUpdate
