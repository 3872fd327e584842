import BoundUpdate.Annotation.Equality
import BoundUpdate.Annotation.Writing

namespace BoundUpdate

/-!
# Arithmetic in annotations

Operators between numbers, collections and sets.  Numbers are computed in the
wider of their classes: integers exactly, real numbers rounded to nearest.
-/

namespace Number

/-!
## Bits of integers

An integer is an endless row of bits; a negative one has ones at its far end.
-/

/-- The integer with every bit turned over. -/
def invert (n : Int) : Int := -n - 1

/-- The bits that both integers have. -/
def bitAnd (m n : Int) : Int :=
  if 0 ≤ m then
    if 0 ≤ n then (m.toNat &&& n.toNat : Nat)
    else m - (m.toNat &&& (invert n).toNat : Nat)
  else if 0 ≤ n then n - (n.toNat &&& (invert m).toNat : Nat)
  else invert ((invert m).toNat ||| (invert n).toNat : Nat)

/-- The bits that one of the integers has at least. -/
def bitOr (m n : Int) : Int := invert (bitAnd (invert m) (invert n))

/-- The bits that one of the integers has and the other has not. -/
def bitXor (m n : Int) : Int := bitOr m n - bitAnd m n

/-- The number of bits of an integer without its sign. -/
def bitLength (n : Int) : Nat := if n = 0 then 0 else n.natAbs.log2 + 1

/-- The number by which an integer is placed in tables: what remains after a division by a prime,
with the sign of the integer.  The number -1 is left out. -/
def tableCode (n : Int) : Int :=
  let rest := Int.tmod n 2305843009213693951
  if rest = -1 then -2 else rest

end Number

namespace Annotation
namespace Meaning

/-! ## Numbers -/

/-- A number in one of the three classes. -/
inductive Figure where
  | integer (n : Int)
  | real (x : Number.Binary64)
  | complex (x y : Number.Binary64)

/-- The number that a value is. -/
def figure? : Meaning → Option Figure
  | .real x => some (.real x)
  | .complex x y => some (.complex x y)
  | m => m.integer?.map .integer

/-- The real number nearest to an integer, if it is not too large. -/
def realOfInteger (n : Int) : Evaluated Number.Binary64 :=
  match Number.Binary64.ofInt n with
  | .infinity _ => Evaluated.overflow
  | x => .ok x

/-- The most bits of an integer that is computed. -/
def bitLimit : Nat := 1000000

/-- A real result; infinity from finite operands is too large. -/
def finiteReal (operands : List Number.Binary64) (x : Number.Binary64) : Evaluated Meaning :=
  match x with
  | .infinity _ =>
    if operands.all fun y => y.quotient?.isSome then Evaluated.overflow else .ok (.real x)
  | x => .ok (.real x)

/-- A power of real numbers. -/
def realPower (x y : Number.Binary64) : Evaluated Meaning :=
  if x.isZero && y.isNegative && y.quotient?.isSome then Evaluated.byZero
  else if x.isNegative && !x.isZero && x.quotient?.isSome && y.quotient?.isSome &&
      y.toInt?.isNone then
    .ok (.object (.type "complex") [])
  else finiteReal [x, y] (x.power y)

/-- An operator between integers. -/
def integers (operator : BinaryOperator) (m n : Int) : Evaluated Meaning :=
  match operator with
  | .add => .ok (.integer (m + n))
  | .subtract => .ok (.integer (m - n))
  | .multiply => .ok (.integer (m * n))
  | .divide =>
    if n = 0 then Evaluated.byZero
    else
      match Number.Binary64.ofRatio (decide (m < 0) != decide (n < 0)) m.natAbs n.natAbs with
      | .infinity _ => Evaluated.overflow
      | x => .ok (.real x)
  | .divideFloor => if n = 0 then Evaluated.byZero else .ok (.integer (Int.fdiv m n))
  | .modulo => if n = 0 then Evaluated.byZero else .ok (.integer (Int.fmod m n))
  | .power =>
    if 0 ≤ n then
      if Number.bitLength m * n.toNat ≤ bitLimit ∨ m.natAbs ≤ 1 then
        .ok (.integer (if m = 1 ∨ n = 0 then 1 else if m = 0 then 0
          else if m = -1 then (if n % 2 = 0 then 1 else -1) else Int.pow m n.toNat))
      else .ok (.object (.type "int") [])
    else do realPower (← realOfInteger m) (← realOfInteger n)
  | .shiftLeft =>
    if n < 0 then Evaluated.invalid "negative shift count"
    else if m = 0 then .ok (.integer 0)
    else if n.toNat ≤ bitLimit then .ok (.integer (m * Int.pow 2 n.toNat))
    else if n.toNat < 34359738368 then .ok (.object (.type "int") [])
    else if n.toNat < 9223372036854775808 then Evaluated.noMemory
    else Evaluated.overflow
  | .shiftRight =>
    if n < 0 then Evaluated.invalid "negative shift count"
    else if bitLimit < n.toNat then .ok (.integer (if m < 0 then -1 else 0))
    else .ok (.integer (Int.fdiv m (Int.pow 2 n.toNat)))
  | .bitAnd => .ok (.integer (Number.bitAnd m n))
  | .bitXor => .ok (.integer (Number.bitXor m n))
  | .bitOr => .ok (.integer (Number.bitOr m n))
  | .multiplyMatrices => Evaluated.misfit "unsupported operands"

/-- An operator between real numbers. -/
def reals (operator : BinaryOperator) (x y : Number.Binary64) : Evaluated Meaning :=
  match operator with
  | .add => .ok (.real (x.add y))
  | .subtract => .ok (.real (x.sub y))
  | .multiply => .ok (.real (x.mul y))
  | .divide => if y.isZero then Evaluated.byZero else .ok (.real (x.div y))
  | .divideFloor => if y.isZero then Evaluated.byZero else .ok (.real (x.divMod y).1)
  | .modulo => if y.isZero then Evaluated.byZero else .ok (.real (x.divMod y).2)
  | .power => realPower x y
  | _ => Evaluated.misfit "unsupported operands"

/-- The product of complex numbers, as pairs of their parts. -/
def complexProduct (a b : Number.Binary64 × Number.Binary64) : Number.Binary64 × Number.Binary64 :=
  ((a.1.mul b.1).sub (a.2.mul b.2), (a.1.mul b.2).add (a.2.mul b.1))

/-- The quotient of complex numbers by one that is not zero; the larger part of the divisor is
divided out first. -/
def complexQuotient (a b : Number.Binary64 × Number.Binary64) : Number.Binary64 × Number.Binary64 :=
  match b.1.abs.compare? b.2.abs with
  | none => (.nan, .nan)
  | some .lt =>
    let ratio := b.1.div b.2
    let divisor := (b.1.mul ratio).add b.2
    (((a.1.mul ratio).add a.2).div divisor, ((a.2.mul ratio).sub a.1).div divisor)
  | some _ =>
    let ratio := b.2.div b.1
    let divisor := b.1.add (b.2.mul ratio)
    ((a.1.add (a.2.mul ratio)).div divisor, (a.2.sub (a.1.mul ratio)).div divisor)

/-- A power of a complex number, by the bits of the exponent from the lowest one; the exponent
bounds their number. -/
def complexPower (result base : Number.Binary64 × Number.Binary64) :
    (fuel : Nat) → Nat → Number.Binary64 × Number.Binary64
  | 0, _ => result
  | fuel + 1, n =>
    if n = 0 then result
    else
      complexPower (if n % 2 = 1 then complexProduct result base else result)
        (complexProduct base base) fuel (n / 2)

/-- An operator between complex numbers, as pairs of their parts. -/
def complexes (operator : BinaryOperator) (a b : Number.Binary64 × Number.Binary64) :
    Evaluated Meaning :=
  let isZero := b.1.isZero && b.2.isZero
  let one : Number.Binary64 × Number.Binary64 := (.ofInt 1, .zero false)
  let pair := fun (c : Number.Binary64 × Number.Binary64) =>
    (.ok (.complex c.1 c.2) : Evaluated Meaning)
  match operator with
  | .add => .ok (.complex (a.1.add b.1) (a.2.add b.2))
  | .subtract => .ok (.complex (a.1.sub b.1) (a.2.sub b.2))
  | .multiply => pair (complexProduct a b)
  | .divide => if isZero then Evaluated.byZero else pair (complexQuotient a b)
  | .power =>
    if isZero then pair one
    else if a.1.isZero && a.2.isZero && (b.1.isNegative || !b.2.isZero) then Evaluated.byZero
    else
      match if b.2.isZero then b.1.toInt? else none with
      | some n =>
        if n.natAbs ≤ 100 then
          let power := complexPower one a 100 n.natAbs
          pair (if n < 0 then complexQuotient one power else power)
        else .ok (.object (.type "complex") [])
      | none => .ok (.object (.type "complex") [])
  | _ => Evaluated.misfit "unsupported operands"

/-- A number as a pair of real and imaginary part. -/
def Figure.parts : Figure → Evaluated (Number.Binary64 × Number.Binary64)
  | .integer n => do return (← realOfInteger n, .zero false)
  | .real x => .ok (x, .zero false)
  | .complex x y => .ok (x, y)

/-- An operator between numbers. -/
def figures (operator : BinaryOperator) (a b : Figure) : Evaluated Meaning := do
  match a, b with
  | .integer m, .integer n => integers operator m n
  | .complex .., _ => complexes operator (← a.parts) (← b.parts)
  | _, .complex .. => complexes operator (← a.parts) (← b.parts)
  | _, _ => reals operator (← a.parts).1 (← b.parts).1

/-- Bits of truth values. -/
def truths? (operator : BinaryOperator) : Meaning → Meaning → Option Meaning
  | .truth a, .truth b =>
    match operator with
    | .bitAnd => some (.truth (a && b))
    | .bitOr => some (.truth (a || b))
    | .bitXor => some (.truth (a != b))
    | _ => none
  | _, _ => none

/-- The most items of a repeated collection that is computed. -/
def itemLimit : Nat := 2000000

/-- The most items of a collection that there is memory for. -/
def memoryLimit : Nat := 4000000000

/-- What a collection of a length is when its items are not computed. -/
def uncomputed (length : Nat) : Evaluated Meaning :=
  if length ≤ memoryLimit then .ok .unknown else Evaluated.noMemory

/-- The largest number of a place in a collection. -/
def greatestPlace : Int := 9223372036854775807

/-- The items of a list, a number of times; texts that are longer than places reach are refused in
another way than other collections. -/
def repeated {α : Type} (items : List α) (count : Int) (isText : Bool) (wrap : List α → Meaning) :
    Evaluated Meaning :=
  if greatestPlace < count ∨ count < -greatestPlace - 1 then Evaluated.overflow
  else if items.length * count.toNat ≤ itemLimit then
    .ok (wrap (List.replicate count.toNat items).flatten)
  else if isText && decide (greatestPlace < items.length * count) then Evaluated.overflow
  else uncomputed (items.length * count.toNat)

/-- A collection repeated. -/
def repetition? (m : Meaning) (count : Int) : Option (Evaluated Meaning) :=
  match m with
  | .text s => some (repeated s.toList count true fun cs => .text (String.ofList cs))
  | .bytes bs isMutable => some (repeated bs count (!isMutable) (.bytes · isMutable))
  | .tuple items => some (repeated items count false .tuple)
  | .list items => some (repeated items count false .list)
  | .object kind items =>
    if kind.fullName = "collections.deque" then some (repeated items count false (.object kind))
    else none
  | _ => none

/-- Two collections of one class in a row. -/
def joined? : Meaning → Meaning → Option Meaning
  | .text s, .text t => some (.text (s ++ t))
  | .bytes xs isMutable, .bytes ys _ => some (.bytes (xs ++ ys) isMutable)
  | .tuple xs, .tuple ys => some (.tuple (xs ++ ys))
  | .list xs, .list ys => some (.list (xs ++ ys))
  | .object c xs, .object d ys =>
    if c.fullName = "collections.deque" ∧ sameClass c d then some (.object c (xs ++ ys)) else none
  | _, _ => none

/-- The items of a value that is a set, and whether the set is frozen. -/
def setItems? : Meaning → Option (List Meaning × Bool)
  | .set items isFrozen => some (items, isFrozen)
  | .object kind items =>
    if ["dict_keys", "dict_items"].contains kind.fullName then some (items, false) else none
  | _ => none

/-- Items without those that are among other ones. -/
def without (items others : List Meaning) : List Meaning :=
  items.filter fun m => !(others.any (same m))

/-- Items that are among other ones. -/
def common (items others : List Meaning) : List Meaning := items.filter fun m => others.any (same m)

/-- Whether a value is a view of the keys or entries of a dictionary. -/
def isKeyView : Meaning → Bool
  | .object kind _ => ["dict_keys", "dict_items"].contains kind.fullName
  | _ => false

/-- The items of a list or another plain collection of values that can be keys. -/
def keyItems? (m : Meaning) : Option (List Meaning × Bool) :=
  let items := match m with
    | .tuple items => some items
    | .list items => some items
    | .dict _ entries => some (entries.map Prod.fst)
    | .text s => some (s.toList.map fun c => .text (String.ofList [c]))
    | .bytes bs _ => some (bs.map fun (b : UInt8) => .integer b.toNat)
    | _ => none
  items.bind fun items => if areKeys items then some (items, false) else none

/-- An operator between sets; beside a view, the items of any collection count. -/
def sets? (operator : BinaryOperator) (a b : Meaning) : Option Meaning :=
  match setItems? a <|> (if isKeyView b then keyItems? a else none),
      setItems? b <|> (if isKeyView a then keyItems? b else none) with
  | some (xs, isFrozen), some (ys, _) =>
    match operator with
    | .subtract => some (.set (without xs ys) isFrozen)
    | .bitAnd => some (.set (common xs ys) isFrozen)
    | .bitOr => some (.set (asSet Number.inPlaces (xs ++ ys)) isFrozen)
    | .bitXor => some (.set (asSet Number.inPlaces (without xs ys ++ without ys xs)) isFrozen)
    | _ => none
  | _, _ => none

/-- The entries of two dictionaries; the second one counts. -/
def merged (entries others : List (Meaning × Meaning)) : List (Meaning × Meaning) :=
  others.foldl (fun all e => withEntry all e.1 e.2) entries

/-- An operator between values that are no types and no formats. -/
def computed? (operator : BinaryOperator) (a b : Meaning) : Option (Evaluated Meaning) :=
  match truths? operator a b with
  | some m => some (.ok m)
  | none =>
    match figure? a, figure? b with
    | some x, some y => some (figures operator x y)
    | _, _ =>
      match operator with
      | .add => (joined? a b).map .ok
      | .multiply =>
        match b.integer?, a.integer? with
        | some n, _ => repetition? a n
        | none, some n => repetition? b n
        | none, none => none
      | .bitOr =>
        match a, b with
        | .dict kind xs, .dict _ ys => some (.ok (.dict kind (merged xs ys)))
        | a, b => (sets? operator a b).map .ok
      | operator => (sets? operator a b).map .ok

/-- An operator in front of a value. -/
def unary (operator : UnaryOperator) (m : Meaning) : Evaluated Meaning :=
  match operator, m.figure?, m with
  | .no, _, m => .ok (.truth !m.isTruthy)
  | _, _, .unknown => .ok .unknown
  | .plus, some (.integer n), _ => .ok (.integer n)
  | .minus, some (.integer n), _ => .ok (.integer (-n))
  | .invert, some (.integer n), _ => .ok (.integer (Number.invert n))
  | .plus, some (.real x), _ => .ok (.real x)
  | .minus, some (.real x), _ => .ok (.real x.neg)
  | .plus, some (.complex x y), _ => .ok (.complex x y)
  | .minus, some (.complex x y), _ => .ok (.complex x.neg y.neg)
  | _, none, .object kind contents =>
    if kind.fullName = "collections.Counter" ∨ kind.fullName = "complex" ∨
        kind.fullName = "int" then
      .ok (.object kind contents)
    else Evaluated.misfit "bad operand"
  | _, _, _ => Evaluated.misfit "bad operand"

/-! ## Order -/

/-- The order of two numbers; `none` where there is none. -/
def figureOrder (a b : Figure) : Evaluated (Option Ordering) :=
  match a, b with
  | .integer m, .integer n => .ok (some (compare m n))
  | .real x, .real y => .ok (x.compare? y)
  | .integer n, .real x => .ok (integerOrder n x)
  | .real x, .integer n => .ok ((integerOrder n x).map Ordering.swap)
  | _, _ => Evaluated.misfit "complex numbers have no order"
where
  /-- The order of an integer and a real number. -/
  integerOrder (n : Int) (x : Number.Binary64) : Option Ordering :=
    match x, x.quotient? with
    | _, some (num, den) => some (compare (n * den) num)
    | .infinity negative, _ => some (if negative then .gt else .lt)
    | _, _ => none

/-- Whether a comparison holds in an order. -/
def holds (c : Comparison) (o : Option Ordering) : Bool :=
  match c, o with
  | .less, some .lt => true
  | .lessEqual, some .lt => true
  | .lessEqual, some .eq => true
  | .greater, some .gt => true
  | .greaterEqual, some .gt => true
  | .greaterEqual, some .eq => true
  | _, _ => false

/-- Whether a comparison holds between two sets, as inclusion. -/
def setsHold (c : Comparison) (xs ys : List Meaning) : Bool :=
  let included := covered false xs ys
  let includes := covered false ys xs
  match c with
  | .less => included && !includes
  | .lessEqual => included
  | .greater => includes && !included
  | _ => includes

/-- The order of two lists of numbers. -/
def listOrder : List Nat → List Nat → Ordering
  | [], [] => .eq
  | [], _ => .lt
  | _, [] => .gt
  | x :: xs, y :: ys => if x = y then listOrder xs ys else compare x y

mutual

/-- Whether a comparison that needs an order holds; collections are compared at the first place
where they differ. -/
def ordered (c : Comparison) : Meaning → Meaning → Evaluated Bool
  | .tuple xs, .tuple ys => orderedAll c xs ys
  | .list xs, .list ys => orderedAll c xs ys
  | .text s, .text t =>
    .ok (holds c (some (listOrder (s.toList.map Char.toNat) (t.toList.map Char.toNat))))
  | .bytes xs _, .bytes ys _ =>
    .ok (holds c (some (listOrder (xs.map UInt8.toNat) (ys.map UInt8.toNat))))
  | .unknown, _ => .ok false
  | _, .unknown => .ok false
  | a, b =>
    match figure? a, figure? b with
    | some x, some y => do return holds c (← figureOrder x y)
    | _, _ =>
      match setItems? a, setItems? b with
      | some (xs, _), some (ys, _) => .ok (setsHold c xs ys)
      | _, _ => Evaluated.misfit ("'" ++ c.sign ++ "' not supported between instances of '" ++
          a.typeName ++ "' and '" ++ b.typeName ++ "'")
termination_by structural m => m

/-- Whether a comparison of collections holds. -/
def orderedAll (c : Comparison) : List Meaning → List Meaning → Evaluated Bool
  | [], ys => .ok (holds c (some (if ys.isEmpty then .eq else .lt)))
  | _ :: _, [] => .ok (holds c (some .gt))
  | x :: xs, y :: ys => if same x y then orderedAll c xs ys else ordered c x y
termination_by structural xs => xs

end

end Meaning
end Annotation
end BoundUpdate
