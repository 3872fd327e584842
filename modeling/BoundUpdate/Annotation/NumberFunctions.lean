import BoundUpdate.Annotation.TextMethods
import BoundUpdate.Annotation.Operators

namespace BoundUpdate
namespace Annotation
namespace Meaning

/-!
# Functions of numbers

Powers, quotients and rounding.  A half is rounded to the even neighbour, and
real numbers are rounded by their exact quotients.
-/

/-- A power, or what remains of it after a division. -/
def power (a b modulus : Meaning) : Evaluated Meaning :=
  match modulus with
  | .nothing => binary .power a b
  | modulus =>
    match a.integer?, b.integer?, modulus.integer? with
    | some a, some b, some m =>
      if m = 0 then Evaluated.invalid "pow() 3rd argument cannot be 0"
      else if b < 0 then
        if Int.gcd a m = 1 then
          let n := Int.fmod (inverseOf a m.natAbs) m
          .ok (.integer (Int.fmod (powerBelow n m b.natAbs b.natAbs) m))
        else Evaluated.invalid "base is not invertible for the given modulus"
      else .ok (.integer (Int.fmod (powerBelow a m b.toNat b.toNat) m))
    | _, _, _ => Evaluated.misfit "pow() 3rd argument not allowed unless all arguments are integers"
where
  /-- The integer whose product with another one leaves one after a division. -/
  inverseOf (a : Int) (m : Nat) : Int := bezout (2 * m.log2 + 4) (Int.emod a m) m 1 0
  /-- The factor of the first one of two integers in their greatest common divisor, from the
  factors of the two; every two steps halve the second integer. -/
  bezout : (fuel : Nat) → Int → Int → Int → Int → Int
    | 0, _, _, s, _ => s
    | fuel + 1, a, b, s, t =>
      if a = 0 then t else bezout fuel (Int.emod b a) a (t - b / a * s) s
  /-- The power of an integer, reduced at every step; the exponent bounds the number of steps. -/
  powerBelow (a m : Int) : (fuel : Nat) → Nat → Int
    | 0, _ => 1
    | fuel + 1, n =>
      if n = 0 then 1
      else
        let half := powerBelow a m fuel (n / 2)
        let square := Int.emod (half * half) m.natAbs
        if n % 2 = 0 then square else Int.emod (square * a) m.natAbs

/-- An integer rounded to a multiple of a power of ten; a half goes to the even neighbour. -/
def roundedInteger (n places : Int) : Int :=
  if 0 ≤ places then n
  else
    let unit : Int := Int.pow 10 (min (-places).toNat (n.natAbs.log2 + 2))
    let q : Int := Number.Binary64.nearestNat n.natAbs unit.natAbs
    (if n < 0 then -q else q) * unit

/-- The integer nearest to a quotient. -/
def nearest (n : Int) (d : Nat) : Int :=
  let q : Int := Number.Binary64.nearestNat n.natAbs d
  if n < 0 then -q else q

/-- An integer from a real number, given how its quotient becomes one. -/
def integerBy (f : Int → Nat → Int) (x : Number.Binary64) : Evaluated Meaning :=
  match x.quotient?, x with
  | some (n, d), _ => .ok (.integer (f n d))
  | none, .infinity _ => Evaluated.infiniteInteger
  | none, _ => Evaluated.invalid "cannot convert float NaN to integer"

/-- A number rounded, to a number of decimal places or to an integer. -/
def rounded (m places : Meaning) : Evaluated Meaning := do
  let places ← match places with
    | .nothing => pure none
    | places => do pure (some (← TextMethod.integerOf (some places)))
  match m, places with
  | .unknown, _ => return .unknown
  | .real x, none => integerBy nearest x
  | .real x, some p =>
    match x.quotient? with
    | some (n, d) =>
      let scale := Nat.pow 10 (min p.natAbs 330)
      if 0 ≤ p then
        let q := Number.Binary64.nearestNat (n.natAbs * scale) d
        return .real (.ofRatio x.isNegative q scale)
      else
        let q := Number.Binary64.nearestNat n.natAbs (d * scale)
        return .real (.ofRatio x.isNegative (q * scale) 1)
    | none => return .real x
  | m, places =>
    match m.integer? with
    | some n => return .integer (roundedInteger n (places.getD 0))
    | none => Evaluated.misfit "type doesn't define __round__ method"

/-- The greatest integer that is not above a number. -/
def floor (m : Meaning) : Evaluated Meaning :=
  match m, m.integer? with
  | .real x, _ => integerBy (fun n d => Int.fdiv n d) x
  | _, some n => .ok (.integer n)
  | m, none => Evaluated.lacking m "__floor__"

/-- The least integer that is not below a number. -/
def ceiling (m : Meaning) : Evaluated Meaning :=
  match m, m.integer? with
  | .real x, _ => integerBy (fun n d => -(Int.fdiv (-n) d)) x
  | _, some n => .ok (.integer n)
  | m, none => Evaluated.lacking m "__ceil__"

/-- The quotient rounded down, and what remains. -/
def quotientAndRest (a b : Meaning) : Evaluated Meaning := do
  match a.figure?, b.figure? with
  | some (.complex ..), _ => Evaluated.misfit "can't take floor of complex number."
  | _, some (.complex ..) => Evaluated.misfit "can't take floor of complex number."
  | some _, some _ => return .tuple [← binary .divideFloor a b, ← binary .modulo a b]
  | _, _ =>
    if a.isVagueNumber || b.isVagueNumber then return .unknown
    else Evaluated.misfit "unsupported operands for divmod()"

end Meaning
end Annotation
end BoundUpdate
