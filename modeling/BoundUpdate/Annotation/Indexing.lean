import BoundUpdate.Annotation.Arithmetic

namespace BoundUpdate
namespace Annotation
namespace Meaning

/-!
# Items of collections

Items are found by place, counted from the end where the place is negative, by
a run of places or by key.  Running through a value gives its items in order.
-/

/-- The integers of a range; very long ranges are cut off. -/
def rangeItems (start stop step : Int) : List Int :=
  let n := min itemLimit (((Meaning.range start stop step).length?).getD 0)
  (List.range n).map fun (i : Nat) => start + step * (i : Int)

/-- A place counted from the start; `none` when it is outside. -/
def place? (length : Nat) (i : Int) : Option Nat :=
  let i := if i < 0 then i + length else i
  if 0 ≤ i ∧ i < length then some i.toNat else none

/-- A bound of a run of places: nothing or an integer. -/
def bound? : Meaning → Evaluated (Option Int)
  | .nothing => .ok none
  | m =>
    match m.integer? with
    | some n => .ok (some n)
    | none => Evaluated.misfit "slice indices must be integers"

/-- The first place, the place after the last one and the step of a run in a collection of a given
length. -/
def run (length : Nat) (start stop step : Meaning) : Evaluated (Int × Int × Int) := do
  let step := (← bound? step).getD 1
  let start? ← bound? start
  let stop? ← bound? stop
  if step = 0 then Evaluated.invalid "slice step cannot be zero"
  else
    let lower : Int := if step < 0 then -1 else 0
    let upper : Int := if step < 0 then length - 1 else length
    let clamp := fun (i : Int) => if i < 0 then max (i + length) lower else min i upper
    let first := match start? with
      | some i => clamp i
      | none => if step < 0 then upper else lower
    let last := match stop? with
      | some i => clamp i
      | none => if step < 0 then lower else upper
    return (first, last, step)

/-- The items at a run of places. -/
def itemsAt {α : Type} (items : List α) (start stop step : Meaning) : Evaluated (List α) := do
  let (first, last, step) ← run items.length start stop step
  let items := items.toArray
  return (rangeItems first last step).filterMap fun i => items[i.toNat]?

/-- An item or a run of items of a list. -/
def itemAt {α : Type} (items : List α) (one : α → Meaning) (several : List α → Meaning)
    (index : Meaning) : Evaluated Meaning :=
  match index with
  | .unknown => .ok .unknown
  | .slice start stop step => return several (← itemsAt items start stop step)
  | m =>
    match m.integer? with
    | none => Evaluated.misfit "indices must be integers or slices"
    | some i =>
      match (place? items.length i).bind fun n => items[n]? with
      | some m => .ok (one m)
      | none => Evaluated.outside

/-- One character as a text. -/
def ofChar (c : Char) : Meaning := .text (String.ofList [c])

/-- One byte as an integer. -/
def ofByte (b : UInt8) : Meaning := .integer b.toNat

/-- The item of a dictionary. -/
def itemOfKey (kind : String) (entries : List (Meaning × Meaning)) (key : Meaning) :
    Evaluated Meaning :=
  if !key.isKey then Evaluated.misfit "unhashable key"
  else
    match valueAt? entries key with
    | some m => .ok m
    | none =>
      if kind = "collections.Counter" then .ok (.integer 0)
      else if kind = "collections.defaultdict" then .ok .unknown
      else Evaluated.noKey key

/-- The item of a range. -/
def itemOfRange (start step : Int) (length : Nat) (index : Meaning) : Evaluated Meaning :=
  match index with
  | .slice a b c => do
    let (first, last, inner) ← run length a b c
    return .range (start + step * first) (start + step * last) (step * inner)
  | m =>
    match m.integer? with
    | none => Evaluated.misfit "range indices must be integers or slices"
    | some i =>
      match place? length i with
      | some n => .ok (.integer (start + step * n))
      | none => Evaluated.outside

/-- An item of a collection; `none` when the value is no collection. -/
def item? (owner index : Meaning) : Option (Evaluated Meaning) :=
  match owner with
  | .text s => some (itemAt s.toList ofChar (fun cs => .text (String.ofList cs)) index)
  | .bytes bs isMutable => some (itemAt bs ofByte (.bytes · isMutable) index)
  | .tuple items => some (itemAt items id .tuple index)
  | .list items => some (itemAt items id .list index)
  | .dict kind entries => some (itemOfKey kind entries index)
  | .range a b c => some (itemOfRange a c ((Meaning.range a b c).length?.getD 0) index)
  | .object kind items =>
    if kind.fullName = "collections.deque" then
      match index with
      | .slice .. => some (Evaluated.misfit "sequence index must be integer, not slice")
      | index => some (itemAt items id .list index)
    else if kind.fullName = "memoryview" then
      some (itemAt items id (.object (.type "memoryview")) index)
    else if kind.isBelow "tuple" then some (itemAt items id .tuple index)
    else if kind.isBelow "list" then some (itemAt items id .list index)
    else if kind.hasMember "__getitem__" then some (.ok .unknown)
    else none
  | .unknown => some (.ok .unknown)
  | _ => none

/-- Whether the instances of a class of types may be run through, which unpacks the type. -/
def unpacks : Application → Bool
  | .plain => true
  | .literal => true
  | .concatenated => true
  | .unpacked => true
  | .function => false
  | .union => false

/-- A type in the place of several parameters. -/
def unpacked (m : Meaning) : Meaning := .applied .unpacked (.form "Unpack") none [m]

/-- The items of a value; `none` when the value cannot be run through or has to be computed. -/
def items? : Meaning → Option (List Meaning)
  | .text s => some (s.toList.map ofChar)
  | .bytes bs _ => some (bs.map ofByte)
  | .tuple items => some items
  | .list items => some items
  | .set items _ => some items
  | .dict _ entries => some (entries.map Prod.fst)
  | .range a b c => some ((rangeItems a b c).map Meaning.integer)
  | .generic origin parameters _ => some [.generic origin parameters true]
  | .applied style origin name parameters =>
    if unpacks style then some [unpacked (.applied style origin name parameters)] else none
  | .variable .types name variance bound constraints =>
    some [unpacked (.variable .types name variance bound constraints)]
  | .object kind contents => if kind.hasMember "__iter__" then some contents else none
  | .unknown => some []
  | _ => none

/-- Whether an item is among the items of a value. -/
def isAmong (m : Meaning) (items : List Meaning) : Bool := items.any (same m)

/-- Whether a value holds another one, given the items of the value. -/
def contains (owner m : Meaning) (items : Evaluated (List Meaning)) : Evaluated Bool :=
  match owner, m with
  | .unknown, _ => .ok false
  | .text s, .text part => .ok (Text.occursIn part.toList s.toList)
  | .text _, _ => Evaluated.misfit "a text holds texts only"
  | .bytes bs _, .bytes part _ =>
    .ok (Text.occursIn (part.map fun b => Char.ofNat b.toNat) (bs.map fun b => Char.ofNat b.toNat))
  | .bytes bs _, m =>
    match m.integer? with
    | some n =>
      if 0 ≤ n ∧ n < 256 then .ok (bs.contains (UInt8.ofNat n.toNat))
      else Evaluated.invalid "byte must be in range(0, 256)"
    | none => Evaluated.misfit "bytes hold bytes only"
  | .range a b c, .integer n =>
    let length := ((Meaning.range a b c).length?).getD 0
    let i := if c = 0 then 0 else Int.fdiv (n - a) c
    .ok (0 ≤ i && i < length && a + c * i == n)
  | .set items _, m =>
    if m.isKey || (m matches .set ..) then .ok (isAmong m items)
    else Evaluated.misfit "unhashable item"
  | .dict _ entries, m =>
    if m.isKey then .ok (entries.any fun e => same e.1 m) else Evaluated.misfit "unhashable key"
  | _, m => do return isAmong m (← items)

end Meaning
end Annotation
end BoundUpdate
