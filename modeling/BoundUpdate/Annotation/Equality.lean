import BoundUpdate.Annotation.Class
import BoundUpdate.Number.Arithmetic
import BoundUpdate.Number.Places

namespace BoundUpdate
namespace Annotation
namespace Meaning

/-!
# Equality of meanings

Numbers are equal by value whatever their classes are, collections by their
items, types by what they are made from.  Alternatives and sets do not depend
on the order.  What may change cannot be a key.
-/

/-- Whether two numbers are equal; other values are not. -/
def sameNumber (a b : Meaning) : Bool :=
  let equalsInteger := fun (n : Int) (m : Meaning) =>
    match m with
    | .real x => x.toInt? == some n
    | .complex x y => y.isZero && x.toInt? == some n
    | _ => false
  match a.integer?, b.integer? with
  | some m, some n => m == n
  | some m, none => equalsInteger m b
  | none, some n => equalsInteger n a
  | none, none =>
    match a, b with
    | .real x, .real y => x.compare? y == some .eq
    | .real x, .complex y z => z.isZero && x.compare? y == some .eq
    | .complex y z, .real x => z.isZero && x.compare? y == some .eq
    | .complex x y, .complex z w => x.compare? z == some .eq && y.compare? w == some .eq
    | _, _ => false

/-- Whether instances of a class are equal when their contents are. -/
def isComparedByContents (c : Meaning) : Bool :=
  ["collections.deque", "types.SimpleNamespace", "dict_keys", "dict_items", "mappingproxy",
    "int"].contains c.fullName

/-- Whether two values share their class, or do not have to. -/
def fits (isTyped : Bool) (a b : Meaning) : Bool := !isTyped || sameClass a.classOf b.classOf

mutual

/-- Whether two values are equal. -/
def same : Meaning → Meaning → Bool
  | .nothing, .nothing => true
  | .unimplemented, .unimplemented => true
  | .ellipsis, .ellipsis => true
  | .text s, .text t => s == t
  | .bytes xs _, .bytes ys _ => xs == ys
  | .tuple xs, .tuple ys => sameAll xs ys
  | .list xs, .list ys => sameAll xs ys
  | .set xs _, .set ys _ => covered false xs ys && ys.all (covers false xs)
  | .dict _ xs, .dict _ ys => xs.length == ys.length && sameEntries xs ys
  | .slice a b c, .slice d e f => same a d && same b e && same c f
  | .range a b c, .range d e f => a == d && b == e && c == f
  | .form a, .form b => a == b
  | .template a, .template b => a == b
  | .generic o xs u, .generic p ys v => same o p && u == v && sameAll xs ys
  | .applied style o _ xs, .applied style' p _ ys =>
    if style = .union ∧ style' = .union then covered false xs ys && ys.all (covers false xs)
    else if style = .literal ∧ style' = .literal then covered true xs ys && ys.all (covers true xs)
    else style != .union && style' != .union && style != .literal && style' != .literal &&
      same o p && sameAll xs ys
  | .applied .union _ _ xs, .barred ys => covered false xs ys && ys.all (covers false xs)
  | .barred xs, .applied .union _ _ ys => covered false xs ys && ys.all (covers false xs)
  | .barred xs, .barred ys => covered false xs ys && ys.all (covers false xs)
  | .annotated a xs, .annotated b ys => same a b && sameAll xs ys
  | .reference s, .reference t => s == t
  | .variable k n _ _ _, .variable l m _ _ _ => k == l && n == m
  | .newType a x, .newType b y => a == b && same x y
  | .library a, .library b => a == b
  | .routine a, .routine b => a == b
  | .method x a, .method y b => a == b && same x y
  | .unbound c a, .unbound d b => c == d && a == b
  | .object c xs, .object d ys => isComparedByContents c && sameClass c d && sameAll xs ys
  | a, b => sameClass a b || sameNumber a b
termination_by structural m => m

/-- Whether two lists are equal item by item. -/
def sameAll : List Meaning → List Meaning → Bool
  | [], ys => ys.isEmpty
  | _ :: _, [] => false
  | x :: xs, y :: ys => same x y && sameAll xs ys
termination_by structural xs => xs

/-- Whether a value is among the items. -/
def covers (isTyped : Bool) : List Meaning → Meaning → Bool
  | [], _ => false
  | x :: xs, y => (fits isTyped x y && same x y) || covers isTyped xs y
termination_by structural xs => xs

/-- Whether all items are among other ones. -/
def covered (isTyped : Bool) : List Meaning → List Meaning → Bool
  | [], _ => true
  | x :: xs, ys => (ys.any fun y => fits isTyped x y && same x y) && covered isTyped xs ys
termination_by structural xs => xs

/-- Whether all entries are among other ones. -/
def sameEntries : List (Meaning × Meaning) → List (Meaning × Meaning) → Bool
  | [], _ => true
  | (k, v) :: rest, ys => (ys.any fun (l, w) => same k l && same v w) && sameEntries rest ys
termination_by structural xs => xs

end

mutual

/-- Whether a value can be a key: nothing in it may change. -/
def isKey : Meaning → Bool
  | .bytes _ isMutable => !isMutable
  | .tuple items => areKeys items
  | .list _ => false
  | .set _ isFrozen => isFrozen
  | .dict .. => false
  | .slice .. => false
  | .generic origin parameters _ => isKey origin && areKeys parameters
  | .applied _ origin _ parameters => isKey origin && areKeys parameters
  | .barred alternatives => areKeys alternatives
  | .annotated inner remarks => isKey inner && areKeys remarks
  | .object kind _ => kind.allowsKeys
  | _ => true

/-- Whether all values can be keys. -/
def areKeys : List Meaning → Bool
  | [] => true
  | m :: rest => isKey m && areKeys rest

end

/-- Values without repetitions; the first place of each counts. -/
def distinct (items : List Meaning) : List Meaning :=
  (items.foldl (fun seen m => if seen.any (same m) then seen else m :: seen) []).reverse

/-- The items of a set: without repetitions, and integers as `place` orders them. -/
def asSet (place : List Int → List Int) (items : List Meaning) : List Meaning :=
  match items.mapM plainInteger? with
  | some numbers => (place numbers).map .integer
  | none =>
    let items := distinct items
    match items.mapM integer? with
    | some numbers =>
      (place numbers).filterMap fun n => items.find? fun m => m.integer? == some n
    | none => items
where
  /-- The number that an integer is, but not the one that a truth value is. -/
  plainInteger? : Meaning → Option Int
    | .integer n => some n
    | _ => none

/-- The value of a key. -/
def valueAt? (entries : List (Meaning × Meaning)) (key : Meaning) : Option Meaning :=
  (entries.find? fun e => same e.1 key).map Prod.snd

/-- Entries with a value given to a key; the place and form of a known key stay. -/
def withEntry (entries : List (Meaning × Meaning)) (key value : Meaning) :
    List (Meaning × Meaning) :=
  if entries.any fun e => same e.1 key then
    entries.map fun e => if same e.1 key then (e.1, value) else e
  else entries ++ [(key, value)]

/-- The number of items that a value holds, for values that have a length. -/
def length? : Meaning → Option Nat
  | .text s => some s.length
  | .bytes bs _ => some bs.length
  | .tuple items => some items.length
  | .list items => some items.length
  | .set items _ => some items.length
  | .dict _ entries => some entries.length
  | .range start stop step =>
    some (if 0 < step then ((stop - start + step - 1) / step).toNat
      else ((start - stop - step - 1) / -step).toNat)
  | .object kind contents =>
    if kind.hasMember "__len__" then some contents.length else none
  | _ => none

/-- Whether a value counts as true. -/
def isTruthy : Meaning → Bool
  | .nothing => false
  | .truth b => b
  | .integer n => n != 0
  | .real x => !x.isZero
  | .complex x y => !(x.isZero && y.isZero)
  | m => m.length? != some 0

/-- Whether two values are one and the same, as far as that can be told. -/
def isOne (a b : Meaning) : Bool :=
  match a, b with
  | .list _, .list _ => false
  | .set _ false, .set _ _ => false
  | .dict .., .dict .. => false
  | .generic .., .generic .. => false
  | .barred _, .barred _ => false
  | .real x, .real y => x == y
  | a, b => sameClass a.classOf b.classOf && same a b

end Meaning
end Annotation
end BoundUpdate
