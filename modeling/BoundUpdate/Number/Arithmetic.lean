import BoundUpdate.Number.Binary64

namespace BoundUpdate
namespace Number
namespace Binary64

/-!
# Arithmetic of binary numbers

The result of an operation on finite numbers is the number nearest to the exact
result.  Infinite numbers follow the usual limits; an operation without a limit
gives the value that is not a number.
-/

/-- The exact value of a finite number as a quotient, sign in the numerator. -/
def quotient? : Binary64 → Option (Int × Nat)
  | .finite negative m e =>
    let (n, d) := ratio m e
    some (if negative then -(n : Int) else n, d)
  | _ => none

/-- Whether the number carries a minus sign. -/
def isNegative : Binary64 → Bool
  | .nan => false
  | .infinity negative => negative
  | .finite negative _ _ => negative

/-- The number nearest to a quotient, sign in the numerator. -/
def ofQuotient (num : Int) (den : Nat) : Binary64 := ofRatio (num < 0) num.natAbs den

/-- The number of the other sign. -/
def neg : Binary64 → Binary64
  | .nan => .nan
  | .infinity negative => .infinity !negative
  | .finite negative m e => .finite (!negative) m e

/-- The number without its sign. -/
def abs (x : Binary64) : Binary64 := if x.isNegative then x.neg else x

/-- The sum; a zero sum of numbers that are not both negative is positive. -/
def add (x y : Binary64) : Binary64 :=
  match x.quotient?, y.quotient?, x, y with
  | some (n, d), some (m, e), x, y =>
    if x.isZero && y.isZero then zero (x.isNegative && y.isNegative)
    else ofQuotient (n * e + m * d) (d * e)
  | _, _, .nan, _ => .nan
  | _, _, _, .nan => .nan
  | _, _, .infinity a, .infinity b => if a = b then .infinity a else .nan
  | none, _, x, _ => x
  | _, _, _, y => y

/-- The difference. -/
def sub (x y : Binary64) : Binary64 := add x y.neg

/-- The product. -/
def mul (x y : Binary64) : Binary64 :=
  let negative := x.isNegative != y.isNegative
  match x.quotient?, y.quotient?, x, y with
  | some (n, d), some (m, e), _, _ => ofRatio negative (n.natAbs * m.natAbs) (d * e)
  | _, _, .nan, _ => .nan
  | _, _, _, .nan => .nan
  | _, _, x, y => if x.isZero || y.isZero then .nan else .infinity negative

/-- The quotient by a number that is not zero. -/
def div (x y : Binary64) : Binary64 :=
  let negative := x.isNegative != y.isNegative
  match x.quotient?, y.quotient?, x, y with
  | some (n, d), some (m, e), _, _ => ofRatio negative (n.natAbs * e) (d * m.natAbs)
  | _, _, .nan, _ => .nan
  | _, _, _, .nan => .nan
  | none, none, _, _ => .nan
  | some _, none, _, _ => zero negative
  | none, some _, _, _ => .infinity negative

/-- The quotient rounded down, and what remains, for a divisor that is not zero.  What remains has
the sign of the divisor. -/
def divMod (x y : Binary64) : Binary64 × Binary64 :=
  match x.quotient?, y.quotient?, x, y with
  | some (n, d), some (m, e), _, _ =>
    let num := n * e * (if m < 0 then -1 else 1)
    let den := d * m.natAbs
    let q := Int.fdiv num den
    let rest := num - q * den
    let rest := if m < 0 then -rest else rest
    (if q = 0 then zero (x.isNegative != y.isNegative) else ofInt q,
      if rest = 0 then zero y.isNegative else ofQuotient rest (d * e))
  | some (n, _), none, _, .infinity negative =>
    if n = 0 ∨ (decide (n < 0) = negative) then (zero (x.isNegative != negative), x)
    else (ofInt (-1), .infinity negative)
  | _, _, _, _ => (.nan, .nan)

/-- The order of two numbers; nothing that is not a number has a place in it. -/
def compare? (x y : Binary64) : Option Ordering :=
  match x.quotient?, y.quotient?, x, y with
  | some (n, d), some (m, e), _, _ => some (compare (n * e) (m * d))
  | _, _, .nan, _ => none
  | _, _, _, .nan => none
  | _, _, .infinity a, .infinity b =>
    some (if a = b then .eq else if a then .lt else .gt)
  | _, _, .infinity a, _ => some (if a then .lt else .gt)
  | _, _, _, .infinity b => some (if b then .gt else .lt)
  | _, _, _, _ => none

/-- The square root of a quotient that is not negative, rounded once: its integer part is taken at a
scale of at least sixty bits, and one more bit tells whether something remains. -/
def rootOfQuotient (num den : Nat) : Binary64 :=
  if num = 0 then zero false
  else
    let scale : Int := 62 - ((num.log2 : Int) - den.log2) / 2
    let up := Nat.pow 2 (2 * scale.toNat)
    let down := Nat.pow 2 (2 * (-scale).toNat)
    let n := num * up / (den * down)
    let root := n.sqrt
    let rest := if root * root = n ∧ num * up % (den * down) = 0 then 0 else 1
    ofRatio false ((2 * root + rest) * Nat.pow 2 (-scale).toNat) (2 * Nat.pow 2 scale.toNat)

/-- The length of the side across the right angle of a triangle. -/
def hypotenuse (x y : Binary64) : Binary64 :=
  match x.quotient?, y.quotient?, x, y with
  | some (n, d), some (m, e), _, _ =>
    rootOfQuotient (n.natAbs * n.natAbs * (e * e) + m.natAbs * m.natAbs * (d * d)) (d * d * (e * e))
  | _, _, .infinity _, _ => .infinity false
  | _, _, _, .infinity _ => .infinity false
  | _, _, _, _ => .nan

/-- The number as the machine holds it. -/
def bits : Binary64 → UInt64
  | .nan => 0x7ff8000000000000
  | .infinity negative => if negative then 0xfff0000000000000 else 0x7ff0000000000000
  | .finite negative m e =>
    let magnitude : Nat :=
      if m < Nat.pow 2 52 then m else (e + 1075).toNat * Nat.pow 2 52 + (m - Nat.pow 2 52)
    UInt64.ofNat ((if negative then Nat.pow 2 63 else 0) + magnitude)

/-- The number that the machine holds as given bits. -/
def ofBits (b : UInt64) : Binary64 :=
  let n := b.toNat
  let negative := Nat.pow 2 63 ≤ n
  let n := n % Nat.pow 2 63
  let power := n / Nat.pow 2 52
  let fraction := n % Nat.pow 2 52
  if power = 2047 then if fraction = 0 then .infinity negative else .nan
  else if power = 0 then .finite negative fraction leastExponent
  else .finite negative (fraction + Nat.pow 2 52) ((power : Int) - 1075)

/-- A power as the machine computes it. -/
def machinePower (x y : Binary64) : Binary64 :=
  ofBits (Float.pow (Float.ofBits x.bits) (Float.ofBits y.bits)).toBits

/-- A power; small integral exponents are computed exactly before rounding. -/
def power (x y : Binary64) : Binary64 :=
  match x.quotient?, y.toInt? with
  | some (n, d), some k =>
    if k.natAbs ≤ 64 ∧ n ≠ 0 then
      let num := Nat.pow n.natAbs k.natAbs
      let den := Nat.pow d k.natAbs
      let negative := n < 0 && k % 2 != 0
      if 0 ≤ k then ofRatio negative num den else ofRatio negative den num
    else machinePower x y
  | _, _ => machinePower x y

end Binary64
end Number
end BoundUpdate
