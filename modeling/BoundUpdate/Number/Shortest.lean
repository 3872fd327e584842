import BoundUpdate.Number.Binary64

namespace BoundUpdate
namespace Number

/-!
# Shortest decimal notation

A floating point number is written with the fewest significant digits that read
back as the same number; of several such digit strings the one nearest to the
number is taken, and of two equally near ones the even one.  Positional notation
is used for decimal exponents from -4 to 15, scientific notation outside.
-/

namespace Binary64

/-- The reals that read back as `m * 2 ^ e` lie between two neighbours' midpoints.  All three are
given over one denominator: lower midpoint, the number itself, upper midpoint. -/
structure Interval where
  lower : Nat
  value : Nat
  upper : Nat
  den : Nat
  closed : Bool

/-- The interval of a positive finite number.  Below a power of two the neighbour is only half as
far away, unless the number has the least exponent. -/
def interval (m : Nat) (e : Int) : Interval :=
  let narrow := m = Nat.pow 2 52 ∧ leastExponent < e
  let (n, d) := ratio 1 (e - 2)
  { lower := (if narrow then 4 * m - 1 else 4 * m - 2) * n
    value := 4 * m * n
    upper := (4 * m + 2) * n
    den := d
    closed := m % 2 = 0 }

/-- Whether `num / den'` lies in the interval. -/
def Interval.holds (i : Interval) (num den' : Nat) : Bool :=
  let x := num * i.den
  let lo := i.lower * den'
  let hi := i.upper * den'
  if i.closed then lo ≤ x && x ≤ hi else lo < x && x < hi

/-- `digits * 10 ^ exponent` as a quotient of naturals. -/
def decimalRatio (digits : Nat) (exponent : Int) : Nat × Nat :=
  if 0 ≤ exponent then (digits * Nat.pow 10 exponent.toNat, 1)
  else (digits, Nat.pow 10 (-exponent).toNat)

/-- The neighbour of the number on the grid of multiples of `10 ^ exponent` that reads back as the
number: the nearer one when both do, the even one when both are equally near. -/
def onGrid (i : Interval) (exponent : Int) : Option Nat :=
  let (one, den) := decimalRatio 1 exponent
  let below := i.value * den / (i.den * one)
  let fits := fun k => let (n, d) := decimalRatio k exponent; i.holds n d
  let low := below != 0 && fits below
  let high := fits (below + 1)
  let twice := 2 * (i.value * den % (i.den * one))
  let unit := i.den * one
  if low && high then
    if twice < unit then some below
    else if unit < twice then some (below + 1)
    else if below % 2 = 0 then some below else some (below + 1)
  else if low then some below
  else if high then some (below + 1)
  else none

/-- The first grid that holds a neighbour, going from exponent `top` down by `fuel` steps. -/
def firstGrid (i : Interval) (top : Int) : (fuel : Nat) → Nat × Int
  | 0 => (i.value / i.den, 0)
  | fuel + 1 =>
    match onGrid i top with
    | some digits => (digits, top)
    | none => firstGrid i (top - 1) fuel

/-- The shortest digits of a positive number and the power of ten of the last one. -/
def shortest (m : Nat) (e : Int) : Nat × Int :=
  let i := interval m e
  let top : Int := (digits (i.value / i.den)).length
  let top := if i.value < i.den then 1 - ((digits (i.den / i.value)).length : Int) else top
  firstGrid i top 22

/-- Drop the zeros at the end of a digit list, raising the exponent. -/
def dropZeros : List Nat → Int → List Nat × Int
  | 0 :: rest, e => dropZeros rest (e + 1)
  | ds, e => (ds.reverse, e)

/-- Digits and decimal point for a positive number with the given digits, whose last digit counts
`10 ^ exponent`. -/
def layout (ds : List Nat) (exponent : Int) : List Char :=
  let (ds, exponent) := dropZeros ds.reverse exponent
  let cs := ds.map digitChar
  let point : Int := exponent + ds.length
  if -4 < point ∧ point ≤ 16 then
    if point ≤ 0 then '0' :: '.' :: List.replicate (-point).toNat '0' ++ cs
    else if (ds.length : Int) ≤ point then
      cs ++ List.replicate (point - ds.length).toNat '0' ++ ['.', '0']
    else cs.take point.toNat ++ '.' :: cs.drop point.toNat
  else
    let mantissa := match cs with
      | [] => []
      | [c] => [c]
      | c :: rest => c :: '.' :: rest
    let power := point - 1
    let sign := if power < 0 then '-' else '+'
    let ps := natChars power.natAbs
    mantissa ++ 'e' :: sign :: (if ps.length < 2 then '0' :: ps else ps)

/-- The text of a number. -/
def text : Binary64 → String
  | .nan => "nan"
  | .infinity negative => if negative then "-inf" else "inf"
  | .finite negative m e =>
    let body := if m = 0 then ['0', '.', '0']
      else let (ds, exponent) := shortest m e; layout (digits ds) exponent
    String.ofList (if negative then '-' :: body else body)

end Binary64
end Number
end BoundUpdate
