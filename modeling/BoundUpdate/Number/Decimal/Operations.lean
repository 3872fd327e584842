import BoundUpdate.Number.Decimal

namespace BoundUpdate
namespace Number
namespace Decimal

/-!
# Operations on one decimal

A result is rounded like every result of arithmetic.  A quiet NaN is its own
result, a signaling one has none.  Results that would be too great have none
either, except that the neighbour of the largest finite decimal is infinite.
-/

/-- Why an operation has no result. -/
inductive Fault where
  | invalidOperation
  | divisionByZero
  | overflow
  deriving DecidableEq, Repr

/-- The name of the condition that arose. -/
def Fault.name : Fault → String
  | .invalidOperation => "InvalidOperation"
  | .divisionByZero => "DivisionByZero"
  | .overflow => "Overflow"

/-- The decimal of an integer. -/
def ofInt (n : Int) : Decimal := .finite (n < 0) n.natAbs 0

/-- The decimal with the sign turned around. -/
def flipped : Decimal → Decimal
  | .finite negative coefficient exponent => .finite (!negative) coefficient exponent
  | .infinity negative => .infinity (!negative)
  | .nan negative signaling payload => .nan (!negative) signaling payload

/-- The decimal without a minus sign. -/
def unsigned (d : Decimal) : Decimal := if d.isNegative then d.flipped else d

@[simp]
theorem flipped_flipped (d : Decimal) : d.flipped.flipped = d := by
  cases d <;> simp [flipped]

@[simp]
theorem isNegative_flipped (d : Decimal) : d.flipped.isNegative = !d.isNegative := by
  cases d <;> rfl

@[simp]
theorem isNegative_unsigned (d : Decimal) : d.unsigned.isNegative = false := by
  cases h : d.isNegative <;> simp [unsigned, h]

/-- The result of an operation that a decimal other than a NaN has. -/
def onNumber (d : Decimal) (f : Decimal → Except Fault Decimal) : Except Fault Decimal :=
  match d with
  | .nan negative false payload => .ok (.nan negative false (payload % Nat.pow 10 precision))
  | .nan _ true _ => .error .invalidOperation
  | d => f d

/-- A number rounded to the precision. -/
def settled : Decimal → Except Fault Decimal
  | .finite negative coefficient exponent =>
    match rounded? negative coefficient exponent with
    | some d => .ok d
    | none => .error .overflow
  | d => .ok d

/-- A number as a result of adding it to zero: rounded, and zero has no sign. -/
def asSum (d : Decimal) : Except Fault Decimal :=
  onNumber d fun d => settled (if d.isZero then d.unsigned else d)

/-- The number subtracted from zero. -/
def negated (d : Decimal) : Except Fault Decimal :=
  onNumber d fun d => settled (if d.isZero then d.unsigned else d.flipped)

/-- The absolute value. -/
def magnitude (d : Decimal) : Except Fault Decimal := onNumber d fun d => settled d.unsigned

/-- The exponent of the first digit as a decimal; zero has none. -/
def exponentOf (d : Decimal) : Except Fault Decimal :=
  onNumber d fun
    | .finite negative coefficient exponent =>
      if coefficient = 0 then .error .divisionByZero
      else .ok (.ofInt (leadingExponent (.finite negative coefficient exponent)))
    | _ => .ok (.infinity false)

/-- The nearest integer, half to even; it is not rounded to the precision. -/
def toIntegral (d : Decimal) : Except Fault Decimal :=
  onNumber d fun
    | .finite negative coefficient exponent =>
      if 0 ≤ exponent then .ok (.finite negative coefficient exponent)
      else .ok (.finite negative (withoutDigits coefficient (-exponent).toNat) 0)
    | d => .ok d

/-- The number of zeros at the end of a coefficient. -/
def zerosOf (coefficient : Nat) : Nat :=
  ((digits coefficient).reverse.takeWhile (· == 0)).length

/-- The number without zeros at the end of the coefficient. -/
def normalized (d : Decimal) : Except Fault Decimal :=
  onNumber d fun d => do
    match ← settled d with
    | .finite negative coefficient exponent =>
      if coefficient = 0 then return .finite negative 0 0
      else
        let zeros := zerosOf coefficient
        return .finite negative (coefficient / Nat.pow 10 zeros) (exponent + zeros)
    | d => return d

/-- The word for the kind of number that a decimal is. -/
def className (d : Decimal) : String :=
  let sign := if d.isNegative then "-" else "+"
  match d with
  | .nan _ signaling _ => if signaling then "sNaN" else "NaN"
  | .infinity _ => sign ++ "Infinity"
  | d =>
    if d.isZero then sign ++ "Zero"
    else if d.isNormal then sign ++ "Normal" else sign ++ "Subnormal"

/-- The number whose digits are one where the number's digits are zero and zero where they are one,
as far as the precision reaches; only integers of zeros and ones have it. -/
def digitwiseNot : Decimal → Except Fault Decimal
  | .finite false coefficient 0 =>
    if (digits coefficient).all (· ≤ 1) then
      let kept := coefficient % Nat.pow 10 precision
      .ok (.finite false (ofDigits (List.replicate precision 1) - kept) 0)
    else .error .invalidOperation
  | _ => .error .invalidOperation

/-- The largest finite decimal. -/
def largest (negative : Bool) : Decimal :=
  .finite negative (Nat.pow 10 precision - 1) (greatestExponent - (precision - 1))

/-- The coefficient at full precision, whether it is exact, and its exponent. -/
def atFullPrecision (coefficient : Nat) (exponent : Int) : Nat × Bool × Int :=
  let length := (digits coefficient).length
  let target := max (exponent + length - precision) leastExponent
  if target ≤ exponent then (coefficient * Nat.pow 10 (exponent - target).toNat, true, target)
  else
    let dropped := (target - exponent).toNat
    if length < dropped then (0, coefficient == 0, target)
    else
      let unit := Nat.pow 10 dropped
      (coefficient / unit, coefficient % unit == 0, target)

/-- The next decimal of greater magnitude. -/
def outward (negative : Bool) (coefficient : Nat) (exponent : Int) : Decimal :=
  let (c, _, e) := atFullPrecision coefficient exponent
  let (c, e) := if c + 1 = Nat.pow 10 precision then (Nat.pow 10 (precision - 1), e + 1)
    else (c + 1, e)
  if greatestExponent < e + (digits c).length - 1 then .infinity negative else .finite negative c e

/-- The next decimal of smaller magnitude; `coefficient` is not zero. -/
def inward (negative : Bool) (coefficient : Nat) (exponent : Int) : Decimal :=
  let (c, isExact, e) := atFullPrecision coefficient exponent
  if greatestExponent < e + (digits c).length - 1 then largest negative
  else if !isExact then .finite negative c e
  else if c = Nat.pow 10 (precision - 1) ∧ leastExponent < e then
    .finite negative (Nat.pow 10 precision - 1) (e - 1)
  else .finite negative (c - 1) e

/-- The least decimal of full precision above a number. -/
def next (d : Decimal) : Except Fault Decimal :=
  onNumber d fun
    | .finite negative coefficient exponent =>
      if coefficient = 0 then .ok (.finite false 1 leastExponent)
      else if negative then .ok (inward true coefficient exponent)
      else .ok (outward false coefficient exponent)
    | .infinity true => .ok (largest true)
    | d => .ok d

/-- The greatest decimal of full precision below a number. -/
def previous (d : Decimal) : Except Fault Decimal :=
  onNumber d fun d => (next d.flipped).map flipped

/-- The decimal as a number of 64 bits; a signaling NaN has none. -/
def toBinary64? : Decimal → Option Binary64
  | .finite negative coefficient exponent => some (.ofDecimal negative coefficient exponent)
  | .infinity negative => some (.infinity negative)
  | .nan _ signaling _ => if signaling then none else some .nan

/-!
## The order of decimals

Numbers are in order by their values, whatever their exponents; the leading
digits are compared first, so that no exponent is too large.  Every number of 64
bits is a decimal.
-/

/-- The decimal of a number of 64 bits. -/
def ofBinary64 : Binary64 → Decimal
  | .nan => .nan false false 0
  | .infinity negative => .infinity negative
  | .finite negative m e =>
    let (n, d) := Binary64.ratio m e
    -- the denominator is a power of two
    .finite negative (n * Nat.pow 5 d.log2) (-d.log2)

/-- The sign of a finite number: minus one, zero or one. -/
def signOf (negative : Bool) (coefficient : Nat) : Int :=
  if coefficient = 0 then 0 else if negative then -1 else 1

/-- The order of two positive numbers. -/
def magnitudeOrder (c : Nat) (e : Int) (c' : Nat) (e' : Int) : Ordering :=
  let leading := leadingExponent (.finite false c e)
  let leading' := leadingExponent (.finite false c' e')
  if leading = leading' then
    let low := min e e'
    compare (c * Nat.pow 10 (e - low).toNat) (c' * Nat.pow 10 (e' - low).toNat)
  else compare leading leading'

/-- The order of two decimals, if both are numbers. -/
def order? : Decimal → Decimal → Option Ordering
  | .nan .., _ => none
  | _, .nan .. => none
  | .infinity negative, .infinity negative' => some (compare negative' negative)
  | .infinity negative, .finite .. => some (if negative then .lt else .gt)
  | .finite .., .infinity negative => some (if negative then .gt else .lt)
  | .finite negative c e, .finite negative' c' e' =>
    match compare (signOf negative c) (signOf negative' c') with
    | .eq =>
      if c = 0 then some .eq
      else
        let order := magnitudeOrder c e c' e'
        some (if negative then order.swap else order)
    | order => some order

end Decimal
end Number
end BoundUpdate
