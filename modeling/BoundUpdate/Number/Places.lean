import BoundUpdate.Number.Digits

namespace BoundUpdate
namespace Number

/-!
# The order of sets of integers

A set of integers is run through in the order of the places that its items take
in a table.  An item takes the place of its remainder by the size of the table
or, when that is taken, a later one or one that a fixed rule leads to.  A table
that is filled to three fifths is replaced by one of at least four times as many
places as there are items.
-/

/-- A table of items, each at its place; the size is a power of two. -/
structure Places where
  places : Array (Option Int) := Array.replicate 8 none
  count : Nat := 0

namespace Places

/-- The number that decides about the place of an item. -/
def mark (n : Int) : Nat :=
  let residue : Nat := n.natAbs % (Nat.pow 2 61 - 1)
  let signed : Int := if n < 0 then -(residue : Int) else residue
  ((if signed = -1 then -2 else signed).emod (Int.pow 2 64)).toNat

/-- How many places after one are tried in a row. -/
def stride : Nat := 9

/-- The first of some places in a row that is free or holds an item; `tries` bounds the search. -/
def inRow (places : Array (Option Int)) (n : Int) (i : Nat) : (tries : Nat) → Option Nat
  | 0 => none
  | tries + 1 =>
    match places[i]? with
    | some none => some i
    | some (some m) => if m = n then some i else inRow places n (i + 1) tries
    | none => none

/-- The place that is free for an item or holds it; `fuel` bounds the number of rows to try. -/
def find (places : Array (Option Int)) (n : Int) : (fuel : Nat) → (stir i : Nat) → Option Nat
  | 0, _, _ => none
  | fuel + 1, stir, i =>
    match inRow places n i (if i + stride < places.size then stride + 1 else 1) with
    | some found => some found
    | none =>
      let stir := stir / 32
      find places n fuel stir ((5 * i + 1 + stir) % places.size)

/-- The place of an item in a table. -/
def placeOf (places : Array (Option Int)) (n : Int) : Option Nat :=
  find places n (places.size + 16) (mark n) (mark n % places.size)

/-- Put an item at its place. -/
def put (places : Array (Option Int)) (n : Int) : Array (Option Int) :=
  match placeOf places n with
  | some i => places.setIfInBounds i (some n)
  | none => places

/-- The least size of a table, a doubling of `size`, with more than a number of places; `fuel`
bounds the number of doublings. -/
def sizeAbove (wanted : Nat) : (fuel : Nat) → (size : Nat) → Nat
  | 0, size => size
  | fuel + 1, size => if size ≤ wanted then sizeAbove wanted fuel (2 * size) else size

/-- The items in the order of their places. -/
def items (places : Array (Option Int)) : List Int := places.toList.filterMap id

/-- A larger table with the same items. -/
def grown (places : Array (Option Int)) (wanted : Nat) : Array (Option Int) :=
  (items places).foldl put (Array.replicate (sizeAbove wanted 64 8) none)

/-- How many places to ask for when a table with a number of items is full. -/
def roomFor (count : Nat) : Nat := if count ≤ 50000 then 4 * count else 2 * count

/-- Add an item. -/
def add (t : Places) (n : Int) : Places :=
  match placeOf t.places n with
  | none => t
  | some i =>
    if (t.places[i]?.join).isSome then t
    else
      let places := t.places.setIfInBounds i (some n)
      let count := t.count + 1
      if count * 5 < (places.size - 1) * 3 then { places, count }
      else { places := grown places (roomFor count), count }

end Places

/-- The items of a set in the order in which it is run through, when they are added one by one. -/
def inPlaces (ns : List Int) : List Int := Places.items (ns.foldl Places.add {}).places

/-- The items of a set in the order in which it is run through, when they are spelled out: they are
taken at once from a set to which they were added in the order of their places. -/
def inPlacesAtOnce (ns : List Int) : List Int :=
  let t := (inPlaces ns).foldl Places.add {}
  let found := Places.items t.places
  let size := if t.count * 5 < 7 * 3 then 8 else Places.sizeAbove (2 * t.count) 64 8
  if size = t.places.size then found
  else Places.items (found.foldl Places.put (Array.replicate size none))

end Number
end BoundUpdate
