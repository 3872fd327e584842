import BoundUpdate.Number.RealText

namespace BoundUpdate
namespace Number

/-!
# Exact decimals

A decimal keeps its coefficient and exponent as written, so `1.50` and `1.5` are
different decimals of equal value.  Arithmetic results are rounded to 28
significant digits, half to even.
-/

/-- An exact decimal, or one that is not finite. -/
inductive Decimal where
  | finite (negative : Bool) (coefficient : Nat) (exponent : Int)
  | infinity (negative : Bool)
  /-- No number; a signaling one refuses to be used.  The payload tells where it came from. -/
  | nan (negative signaling : Bool) (payload : Nat)
  deriving DecidableEq, Repr

namespace Decimal

/-- The significant digits that arithmetic keeps. -/
def precision : Nat := 28

/-- The word at the front of a text in which letters are in lower case, and the text after it. -/
def afterWord? (word : String) (s : List Char) : Option (List Char) :=
  if word.toList.isPrefixOf s then some (s.drop word.length) else none

/-- Read the word for a decimal that is not finite; `s` has no sign and is in lower case. -/
def readWord (negative : Bool) (s : List Char) : Option Decimal :=
  let nan := fun (signaling : Bool) (payload : List Char) =>
    if payload.all isDigit then some (Decimal.nan negative signaling (readDigits payload)) else none
  if s = "inf".toList ∨ s = "infinity".toList then some (.infinity negative)
  else match afterWord? "nan" s, afterWord? "snan" s with
    | some payload, _ => nan false payload
    | none, some payload => nan true payload
    | none, none => none

/-- Read a decimal text. -/
def read (s : String) : Option Decimal :=
  let plain := plainSpelling s.toList
  match readDecimalLiteral plain with
  | some l => some (.finite l.negative l.digits l.exponent)
  | none =>
    let (negative, rest) := readSign plain
    readWord negative rest

/-- The digits in front of the point when a decimal is written, given how many there would be
without a power of ten.  Large powers are written apart; in engineering notation the power is a
multiple of three. -/
def placeOfPoint (engineering isZero : Bool) (exponent left : Int) : Int :=
  if exponent ≤ 0 ∧ -6 < left then left
  else if !engineering then 1
  else if isZero then (left + 1) % 3 - 1
  else (left - 1) % 3 + 1

/-- The text of a decimal: positional for small exponents, with a power of ten otherwise. -/
def written (engineering : Bool) : Decimal → String
  | .infinity negative => if negative then "-Infinity" else "Infinity"
  | .nan negative signaling payload =>
    (if negative then "-" else "") ++ (if signaling then "sNaN" else "NaN") ++
      (if payload = 0 then "" else natText payload)
  | .finite negative coefficient exponent =>
    let cs := natChars coefficient
    let left : Int := exponent + cs.length
    let point := placeOfPoint engineering (coefficient = 0) exponent left
    let body :=
      if point ≤ 0 then '0' :: '.' :: List.replicate (-point).toNat '0' ++ cs
      else if (cs.length : Int) ≤ point then cs ++ List.replicate (point - cs.length).toNat '0'
      else cs.take point.toNat ++ '.' :: cs.drop point.toNat
    let power := left - point
    let tail := if power = 0 then []
      else 'E' :: (if power < 0 then '-' else '+') :: natChars power.natAbs
    String.ofList ((if negative then ['-'] else []) ++ body ++ tail)

/-- The text of a decimal, in scientific notation where a power of ten is needed. -/
def text : Decimal → String := written false

/-- Whether the decimal is zero. -/
def isZero : Decimal → Bool
  | .finite _ coefficient _ => coefficient == 0
  | _ => false

/-- Whether the decimal is no number. -/
def isNaN : Decimal → Bool
  | .nan .. => true
  | _ => false

/-- Whether the decimal is no number and refuses to be used. -/
def isSignaling : Decimal → Bool
  | .nan _ signaling _ => signaling
  | _ => false

/-- Whether the decimal carries a minus sign. -/
def isNegative : Decimal → Bool
  | .finite negative .. => negative
  | .infinity negative => negative
  | .nan negative .. => negative

/-- The least exponent, in scientific notation, of decimals that have full precision. -/
def leastNormalExponent : Int := -999999

/-- Whether the decimal is finite, not zero and has full precision. -/
def isNormal : Decimal → Bool
  | .finite _ coefficient exponent =>
    coefficient != 0 && leastNormalExponent < exponent + (digits coefficient).length
  | _ => false

/-- Whether the decimal is finite and not zero, but too small for full precision. -/
def isSubnormal (d : Decimal) : Bool :=
  match d with
  | .finite .. => !d.isZero && !d.isNormal
  | _ => false

/-- The decimal as a quotient, sign in the numerator. -/
def ratio? : Decimal → Option (Int × Nat)
  | .finite negative coefficient exponent =>
    let n : Int := if negative then -(coefficient : Int) else coefficient
    some (if 0 ≤ exponent then (n * Nat.pow 10 exponent.toNat, 1)
      else (n, Nat.pow 10 (-exponent).toNat))
  | _ => none

/-- The exponent of the first digit; zero for a decimal that is not finite. -/
def leadingExponent : Decimal → Int
  | .finite _ coefficient exponent => exponent + (digits coefficient).length - 1
  | _ => 0

/-- A decimal between the same integers: a hundredth stands for all smaller ones but zero. -/
def coarse : Decimal → Decimal
  | .finite negative coefficient exponent =>
    if coefficient = 0 then .finite negative 0 0
    else if leadingExponent (.finite negative coefficient exponent) < -2 then
      .finite negative 1 (-2)
    else .finite negative coefficient exponent
  | d => d

/-- A decimal that is in the same order with all integers of at most a thousand digits. -/
def nearby (d : Decimal) : Decimal :=
  match d.coarse with
  | .finite negative coefficient exponent =>
    if 1000 < leadingExponent (.finite negative coefficient exponent) then .finite negative 1 1001
    else .finite negative coefficient exponent
  | d => d

/-- Whether a decimal is so large or so small that it equals no integer of at most 4300 digits and
no number of 64 bits. -/
def isRemote (d : Decimal) : Bool :=
  !d.isZero && (4300 < d.leadingExponent || d.leadingExponent < -400)

/-- Whether two finite decimals have one value. -/
def sameValue : Decimal → Decimal → Bool
  | .finite negative c e, .finite negative' c' e' =>
    if c = 0 ∨ c' = 0 then c == c'
    else
      let low := min e e'
      negative == negative' &&
        leadingExponent (.finite negative c e) == leadingExponent (.finite negative' c' e') &&
        c * Nat.pow 10 (e - low).toNat == c' * Nat.pow 10 (e' - low).toNat
  | _, _ => false

/-- The integer part, rounded toward zero. -/
def truncate? (d : Decimal) : Option Int :=
  d.coarse.ratio?.map fun (n, den) => n.tdiv den

/-- The greatest exponent, in scientific notation, that arithmetic reaches. -/
def greatestExponent : Int := 999999

/-- The least exponent of a coefficient that arithmetic reaches. -/
def leastExponent : Int := leastNormalExponent - (precision - 1)

/-- The coefficient that stays when its last digits are dropped, half to even. -/
def withoutDigits (coefficient dropped : Nat) : Nat :=
  if (digits coefficient).length < dropped then 0
  else Binary64.nearestNat coefficient (Nat.pow 10 dropped)

/-- The decimal of a coefficient and an exponent, rounded to the precision and to the least
exponent; `none` when it is too great. -/
def rounded? (negative : Bool) (coefficient : Nat) (exponent : Int) : Option Decimal :=
  if coefficient = 0 then
    some (.finite negative 0 (max leastExponent (min exponent greatestExponent)))
  else
    let excess := (digits coefficient).length - precision
    let target := max (exponent + excess) leastExponent
    let c := withoutDigits coefficient (target - exponent).toNat
    let (c, target) := if c = Nat.pow 10 precision then (Nat.pow 10 (precision - 1), target + 1)
      else (c, target)
    if greatestExponent < target + (digits c).length - 1 then none
    else some (.finite negative c target)

/-- The coefficient with the sign, at an exponent that is not above the decimal's own. -/
def scaledTo (negative : Bool) (coefficient : Nat) (exponent target : Int) : Int :=
  let c : Int := coefficient * Nat.pow 10 (exponent - target).toNat
  if negative then -c else c

/-- The sum with an integer; `none` when it is too great. -/
def plus? (d : Decimal) (n : Int) : Option Decimal :=
  match d with
  | .finite negative coefficient exponent =>
    let target := min exponent 0
    let sum := scaledTo negative coefficient exponent target + n * Nat.pow 10 (-target).toNat
    rounded? (sum < 0) sum.natAbs target
  | d => some d

/-- Twice the decimal; `none` when it is too great. -/
def double? : Decimal → Option Decimal
  | .finite negative coefficient exponent => rounded? negative (2 * coefficient) exponent
  | d => some d

end Decimal
end Number
end BoundUpdate
