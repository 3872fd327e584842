import BoundUpdate.Number.Decimal.Operations

namespace BoundUpdate
namespace Number
namespace Decimal

/-!
# Roots, powers and logarithms of a decimal

Each function gives the decimal nearest to its exact value.  A root is taken of
an integer, and one more digit tells whether something remains.  The other
functions are enclosed by two decimals that grow closer until both round to the
same one: a series is summed at a number of places, and `error` bounds what all
its roundings and the terms that were left out come to.
-/

/-- The square root; it keeps half the exponent where it is exact. -/
def squareRoot (d : Decimal) : Except Fault Decimal :=
  onNumber d fun
    | .finite negative coefficient exponent =>
      let half := exponent.fdiv 2
      if coefficient = 0 then settled (.finite negative 0 half)
      else if negative then .error .invalidOperation
      else
        let even := if exponent % 2 = 0 then coefficient else 10 * coefficient
        let places := precision + 2
        let wide := even * Nat.pow 10 (2 * places)
        let root := wide.sqrt
        if root * root = wide then
          let dropped := min places (zerosOf root)
          settled (.finite false (root / Nat.pow 10 dropped) (half - places + dropped))
        else settled (.finite false (10 * root + 1) (half - places - 1))
    | .infinity true => .error .invalidOperation
    | d => .ok d

/-- A number near another one: at a number of places, `value` differs from it by at most `error`. -/
structure Approximation where
  value : Int
  error : Nat

namespace Approximation

/-- The sum of two approximations. -/
def add (a b : Approximation) : Approximation := ⟨a.value + b.value, a.error + b.error⟩

/-- An approximation multiplied by an integer. -/
def times (a : Approximation) (n : Int) : Approximation := ⟨a.value * n, a.error * n.natAbs⟩

/-- The decimal that all numbers within the error round to, if they agree. -/
def decided? (a : Approximation) (exponent : Int) : Option (Option Decimal) :=
  let size := a.value.natAbs
  if size ≤ a.error then none
  else
    let lower := size - a.error
    let round := fun (n : Nat) => rounded? (a.value < 0) n exponent
    if (digits lower).length ≤ precision then none
    else if round lower = round (size + a.error) then some (round lower)
    else none

end Approximation

/-- The first decision among approximations at more and more places; `fuel` bounds how often the
number of places is doubled. -/
def firstDecided (approximate : Nat → Approximation × Int) : (fuel places : Nat) →
    Except Fault Decimal
  | 0, _ => .error .invalidOperation
  | fuel + 1, places =>
    let (a, exponent) := approximate places
    match a.decided? exponent with
    | some (some d) => .ok d
    | some none => .error .overflow
    | none => firstDecided approximate fuel (2 * places)

/-- The nearest decimal, from approximations at any number of places. -/
def nearest (approximate : Nat → Approximation × Int) : Except Fault Decimal :=
  firstDecided approximate 12 64

/-- `± coefficient * 10 ^ exponent` at a number of places, rounded toward zero. -/
def atPlaces (coefficient : Nat) (exponent : Int) (places : Nat) : Nat :=
  let shift := exponent + places
  if 0 ≤ shift then coefficient * Nat.pow 10 shift.toNat
  else if (digits coefficient).length < (-shift).toNat then 0
  else coefficient / Nat.pow 10 (-shift).toNat

/-- The sum of `power / odd` over the odd numbers from `odd` on, where each power is the one before
multiplied by the square of `num / den`. -/
def oddTerms (num den : Nat) : (fuel power odd : Nat) → Nat
  | 0, _, _ => 0
  | fuel + 1, power, odd =>
    if power = 0 then 0
    else power / odd + oddTerms num den fuel (power * (num * num) / (den * den)) (odd + 2)

/-- The logarithm of a number from one to ten, given as a quotient: twice the inverse hyperbolic
tangent of its difference from one over its sum with one. -/
def logarithmOf (n d places : Nat) : Approximation :=
  let count := 8 * places + 8
  let (num, den) := (n - d, n + d)
  let sum := oddTerms num den count (Nat.pow 10 places * num / den) 1
  { value := 2 * sum, error := 8 * (count + 2) }

/-- The logarithm of ten. -/
def logarithmOfTen (places : Nat) : Approximation := logarithmOf 10 1 places

/-- The logarithm of the coefficient read as a number from one to ten. -/
def logarithmOfLeading (coefficient places : Nat) : Approximation :=
  logarithmOf coefficient (Nat.pow 10 ((digits coefficient).length - 1)) places

/-- What a logarithm gives for zero, infinity and negative numbers. -/
def onPositive (d : Decimal) (f : Nat → Int → Except Fault Decimal) : Except Fault Decimal :=
  onNumber d fun
    | .finite negative coefficient exponent =>
      if coefficient = 0 then .ok (.infinity true)
      else if negative then .error .invalidOperation
      else f coefficient exponent
    | .infinity true => .error .invalidOperation
    | d => .ok d

/-- The power of ten that a positive number is. -/
def powerOfTen? (coefficient : Nat) (exponent : Int) : Option Int :=
  let zeros := zerosOf coefficient
  if coefficient = Nat.pow 10 zeros then some (exponent + zeros) else none

/-- The natural logarithm. -/
def logarithm (d : Decimal) : Except Fault Decimal :=
  onPositive d fun coefficient exponent =>
    if powerOfTen? coefficient exponent = some 0 then .ok (.ofInt 0)
    else
      let power := leadingExponent (.finite false coefficient exponent)
      nearest fun places =>
        ((logarithmOfLeading coefficient places).add ((logarithmOfTen places).times power),
          -(places : Int))

/-- The logarithm to the base ten. -/
def decimalLogarithm (d : Decimal) : Except Fault Decimal :=
  onPositive d fun coefficient exponent =>
    match powerOfTen? coefficient exponent with
    | some power => settled (.ofInt power)
    | none =>
      let power := leadingExponent (.finite false coefficient exponent)
      nearest fun places =>
        let scale := Nat.pow 10 places
        let a := logarithmOfLeading coefficient places
        let b := logarithmOfTen places
        let quotient := a.value * scale / b.value
        let error := a.error + (quotient.natAbs / scale + 1) * b.error + 2
        (⟨quotient + power * scale, error⟩, -(places : Int))

/-- The sum of the terms of the exponential series from the one with number `i - 1`, which is
`term`, on. -/
def exponentialTerms (r scale : Int) : (fuel : Nat) → (term : Int) → (i : Nat) → Int
  | 0, _, _ => 0
  | fuel + 1, term, i =>
    if term = 0 then 0
    else term + exponentialTerms r scale fuel ((term * r).tdiv (scale * i)) (i + 1)

/-- The leading exponent from which on a power has no place among the decimals. -/
def beyondPowers : Int := 8

/-- The power of Euler's number.  A whole power of ten is split off, so that the series is summed
for a number below the logarithm of ten. -/
def exponential (d : Decimal) : Except Fault Decimal :=
  onNumber d fun
    | .finite negative coefficient exponent =>
      if coefficient = 0 then .ok (.ofInt 1)
      else if beyondPowers ≤ leadingExponent (.finite negative coefficient exponent) then
        if negative then settled (.finite false 0 leastExponent) else .error .overflow
      else
        nearest fun places =>
          let scale := Nat.pow 10 places
          let size := atPlaces coefficient exponent places
          let x : Int := if negative then -(size : Int) else size
          let ten := logarithmOfTen places
          let power := x.fdiv ten.value
          let r := x - power * ten.value
          let count := 4 * places + 16
          (⟨exponentialTerms r scale count scale 1,
            16 * (count + ten.error * power.natAbs + 3)⟩, power - places)
    | .infinity true => .ok (.ofInt 0)
    | d => .ok d

end Decimal
end Number
end BoundUpdate
