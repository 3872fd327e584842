import BoundUpdate.Number.Digits

namespace BoundUpdate
namespace Number

/-!
# Binary floating point numbers

A finite number is a sign, a significand below `2 ^ 53` and a power of two.  The
number nearest to a quotient of naturals is found exactly; ties go to the even
significand, values beyond the largest finite number become infinite and
values below the smallest one become zero.  No rounding is left to the machine.
-/

/-- A binary floating point number of 64 bits, as a value. -/
inductive Binary64 where
  | nan
  | infinity (negative : Bool)
  /-- `± significand * 2 ^ exponent`. -/
  | finite (negative : Bool) (significand : Nat) (exponent : Int)
  deriving DecidableEq, Repr

namespace Binary64

/-- The exponent of the smallest positive number. -/
def leastExponent : Int := -1074

/-- The exponent of the largest finite number. -/
def greatestExponent : Int := 971

/-- Zero of either sign. -/
def zero (negative : Bool) : Binary64 := .finite negative 0 leastExponent

/-- The integer nearest to `num / den`; a tie goes to the even neighbour. -/
def nearestNat (num den : Nat) : Nat :=
  let q := num / den
  let twice := 2 * (num % den)
  if twice < den then q
  else if den < twice then q + 1
  else if q % 2 = 0 then q else q + 1

/-- `num / den / 2 ^ e` as a quotient of naturals. -/
def scaleDown (num den : Nat) (e : Int) : Nat × Nat :=
  if 0 ≤ e then (num, den * Nat.pow 2 e.toNat) else (num * Nat.pow 2 (-e).toNat, den)

/-- The exponent that gives the quotient `num / den` a significand of 53 bits, or the least
exponent when the quotient is too small for that. -/
def exponentFor (num den : Nat) : Int :=
  let guess : Int := (num.log2 : Int) - den.log2 - 52
  let (n, d) := scaleDown num den guess
  max leastExponent (if n / d < Nat.pow 2 52 then guess - 1 else guess)

/-- The number nearest to `± num / den`, where `den` is positive. -/
def ofRatio (negative : Bool) (num den : Nat) : Binary64 :=
  if num = 0 then zero negative
  else
    let e := exponentFor num den
    let (n, d) := scaleDown num den e
    let m := nearestNat n d
    let (m, e) := if m = Nat.pow 2 53 then (Nat.pow 2 52, e + 1) else (m, e)
    if greatestExponent < e then .infinity negative else .finite negative m e

/-- The number nearest to an integer. -/
def ofInt (n : Int) : Binary64 := ofRatio (n < 0) n.natAbs 1

/-- The number nearest to `± digits * 10 ^ exponent`.  Exponents far outside the range are
decided without computing the power. -/
def ofDecimal (negative : Bool) (digits : Nat) (exponent : Int) : Binary64 :=
  let magnitude : Int := exponent + (Number.digits digits).length
  if digits = 0 ∨ magnitude < -400 then zero negative
  else if 400 < magnitude then .infinity negative
  else if 0 ≤ exponent then ofRatio negative (digits * Nat.pow 10 exponent.toNat) 1
  else ofRatio negative digits (Nat.pow 10 (-exponent).toNat)

/-- Whether the number is zero, of either sign. -/
def isZero : Binary64 → Bool
  | .finite _ m _ => m == 0
  | _ => false

/-- The absolute value of a finite number as a quotient of naturals. -/
def ratio (m : Nat) (e : Int) : Nat × Nat :=
  if 0 ≤ e then (m * Nat.pow 2 e.toNat, 1) else (m, Nat.pow 2 (-e).toNat)

/-- The integer part, rounded toward zero; `none` when the number is not finite. -/
def truncate? : Binary64 → Option Int
  | .finite negative m e =>
    let (n, d) := ratio m e
    let q : Int := (n / d : Nat)
    some (if negative then -q else q)
  | _ => none

/-- The integer that the number equals, if there is one. -/
def toInt? : Binary64 → Option Int
  | .finite negative m e =>
    let (n, d) := ratio m e
    if n % d = 0 then
      let q : Int := (n / d : Nat)
      some (if negative then -q else q)
    else none
  | _ => none

/-- Twice the number. -/
def double : Binary64 → Binary64
  | .finite negative m e =>
    let (n, d) := ratio m e
    ofRatio negative (2 * n) d
  | x => x

end Binary64
end Number
end BoundUpdate
