import BoundUpdate.Annotation.Construction
import BoundUpdate.Number.Hexadecimal
import BoundUpdate.Sorting

namespace BoundUpdate
namespace Annotation

/-!
# Functions of values

What the functions of classes give for an instance.  A function that changes its
instance gives nothing.
-/

/-- A function of the values of a class. -/
abbrev Method := Machine → Meaning → Arguments → Evaluation Meaning

namespace Method

/-- A function of a value and the arguments of some parameters. -/
def taking (parameters : List String) (required : Nat)
    (f : Meaning → Given → Evaluated Meaning) : Method := fun _ m a => do
  return (← f m (← a.bind parameters required))

/-- A function of a value alone. -/
def alone (f : Meaning → Evaluated Meaning) : Method := taking [] 0 fun m _ => f m

/-- A function of a value and another one. -/
def withOne (f : Meaning → Meaning → Evaluated Meaning) : Method :=
  taking [""] 1 fun m g => f m (g.head?.join.getD .nothing)

/-- A function of the items of a value and other items. -/
def withItems (f : List Meaning → List Meaning → Evaluated Meaning) : Method := fun k m a => do
  match ← a.unnamed with
  | [other] => do return (← f (← k.items m) (← k.items other))
  | _ => Evaluated.misfit "takes exactly one argument"

/-- A function that changes its value, which may be refused. -/
def changing (parameters : List String) (required : Nat)
    (check : Meaning → Given → Evaluated Unit) : Method :=
  taking parameters required fun m g => do
    check m g
    return .nothing

/-- The items of a value that holds them. -/
def held : Meaning → List Meaning
  | .tuple items => items
  | .list items => items
  | .set items _ => items
  | .dict _ entries => entries.map Prod.fst
  | .range a b c => (Meaning.rangeItems a b c).map Meaning.integer
  | .object _ items => items
  | _ => []

/-- The entries of a dictionary. -/
def entries : Meaning → List (Meaning × Meaning)
  | .dict _ entries => entries
  | _ => []

/-! ## Order -/

/-- Items with the values that they are ordered by. -/
def keyed (k : Machine) (items : List Meaning) (named : List (String × Meaning)) :
    Evaluation (List (Meaning × Meaning)) :=
  items.mapM fun m => do
    match named.lookup "key" with
    | none => return (m, m)
    | some .nothing => return (m, m)
    | some f => return (m, ← k.call f { positional := [m] })

/-- Items in order; equal ones keep their order. -/
def inOrder (k : Machine) (items : List Meaning) (named : List (String × Meaning)) :
    Evaluation (List Meaning) := do
  if named.any fun e => e.1 != "key" && e.1 != "reverse" then
    Evaluated.misfit "unexpected keyword argument"
  else
    let backwards := (named.lookup "reverse").any Meaning.isTruthy
    let entries ← keyed k items named
    let entries := if backwards then entries.reverse else entries
    let ordered ← (Sorting.sorted (fun (e f : Meaning × Meaning) =>
      Meaning.ordered .less e.2 f.2) entries : Evaluated _)
    let items := ordered.map Prod.fst
    return if backwards then items.reverse else items

/-! ## Collections -/

/-- Where an item first is. -/
def indexOf (m : Meaning) (g : Given) : Evaluated Meaning := do
  let item := g.head?.join.getD .nothing
  let items := held m
  let (first, last, _) ← Meaning.run items.length ((g.drop 1).head?.join.getD .nothing)
    ((g.drop 2).head?.join.getD .nothing) .nothing
  let found := (items.zipIdx.find? fun (x, (i : Nat)) =>
    decide (first ≤ (i : Int)) && decide ((i : Int) < last) && Meaning.same x item)
  match found with
  | some (_, i) => return .integer i
  | none => Evaluated.invalid "not in list"

/-- How often an item occurs. -/
def countOf (m item : Meaning) : Evaluated Meaning :=
  .ok (.integer ((held m).filter (Meaning.same item)).length)

/-- The item that is taken out. -/
def popped (m : Meaning) (g : Given) : Evaluated Meaning := do
  let items := held m
  if items.isEmpty then Evaluated.outsideOf ("pop from empty " ++ m.typeName)
  else
    match g.head?.join with
    | none => return items.getLast?.getD .nothing
    | i =>
      let i ← TextMethod.placeOf i
      match Meaning.place? items.length i with
      | some n => return items[n]?.getD .nothing
      | none => Evaluated.outside

/-- The functions of ranges that differ from those of other rows. -/
def ofRanges : List (String × Method) := [("index", taking [""] 1 indexOf)]

/-- The functions of queues that differ from those of other rows. -/
def ofQueues : List (String × Method) := [("pop", taking [] 0 popped)]

/-- The functions of lists and other rows of items. -/
def ofRows : List (String × Method) :=
  [("index", taking ["", "", ""] 1 indexOf), ("count", withOne countOf),
   ("pop", taking [""] 0 popped),
   ("popleft", alone fun m => match held m with
     | [] => Evaluated.outside
     | item :: _ => .ok item),
   ("remove", changing [""] 1 fun m g =>
     if Meaning.isAmong (g.head?.join.getD .nothing) (held m) then .ok ()
     else Evaluated.invalid "x not in list"),
   ("append", changing [""] 1 fun _ _ => .ok ()),
   ("appendleft", changing [""] 1 fun _ _ => .ok ()),
   ("insert", changing ["", ""] 2 fun _ g => do
     let _ ← TextMethod.placeOf g.head?.join),
   ("rotate", changing [""] 0 fun _ g => do
     if g.head?.join.isSome then let _ ← TextMethod.placeOf g.head?.join),
   ("clear", changing [] 0 fun _ _ => .ok ()), ("reverse", changing [] 0 fun _ _ => .ok ()),
   ("copy", alone .ok),
   ("extend", withItems fun _ _ => .ok .nothing), ("extendleft", withItems fun _ _ => .ok .nothing),
   ("sort", fun k m a => do
     if a.positional.isEmpty then
       let _ ← inOrder k (held m) a.named
       return .nothing
     else Evaluated.misfit "takes no positional arguments")]

/-- A function of sets that takes any number of collections. -/
def withSets (f : List Meaning → List Meaning → List Meaning) : Method := fun k m a => do
  let others ← (← a.unnamed).mapM k.items
  let isFrozen := m matches .set _ true
  if others.all Meaning.areKeys then return .set (others.foldl f (held m)) isFrozen
  else Evaluated.misfit "unhashable item"

/-- A function of sets that takes one collection. -/
def withSet (f : List Meaning → List Meaning → List Meaning) : Method := fun k m a =>
  if a.positional.length = 1 then withSets f k m a
  else Evaluated.misfit "takes exactly one argument"

/-- A function that changes a set by other collections. -/
def changingSet (most : Nat) : Method := fun k _ a => do
  let items ← (← a.unnamed).mapM k.items
  if most < items.length then Evaluated.misfit "takes exactly one argument"
  else if items.all Meaning.areKeys then return .nothing
  else Evaluated.misfit "unhashable item"

/-- A test of a set and another collection. -/
def setTest (f : List Meaning → List Meaning → Bool) : Method :=
  withItems fun items others => .ok (.truth (f items others))

/-- The functions of sets. -/
def ofSets : List (String × Method) :=
  [("union", withSets fun xs ys => Meaning.asSet Number.inPlaces (xs ++ ys)),
   ("intersection", withSets Meaning.common), ("difference", withSets Meaning.without),
   ("symmetric_difference", withSet fun xs ys =>
     Meaning.asSet Number.inPlaces (Meaning.without xs ys ++ Meaning.without ys xs)),
   ("issubset", setTest (Meaning.covered false)),
   ("issuperset", setTest fun xs ys => Meaning.covered false ys xs),
   ("isdisjoint", setTest fun xs ys => (Meaning.common xs ys).isEmpty),
   ("copy", alone .ok), ("clear", changing [] 0 fun _ _ => .ok ()),
   ("add", changing [""] 1 fun _ g =>
     if (g.head?.join.getD .nothing).isKey then .ok () else Evaluated.misfit "unhashable item"),
   ("discard", changing [""] 1 fun _ g =>
     if (g.head?.join.getD .nothing).isKey then .ok () else Evaluated.misfit "unhashable item"),
   ("remove", changing [""] 1 fun m g =>
     let item := g.head?.join.getD .nothing
     if Meaning.isAmong item (held m) then .ok ()
     else if item.isKey || (item matches .set ..) then Evaluated.noKey item
     else Evaluated.misfit "unhashable item"),
   ("pop", alone fun m => match held m with
     | item :: _ => .ok item
     | [] => Evaluated.noKey (.text "pop from an empty set")),
   ("update", changingSet greatestCount), ("difference_update", changingSet greatestCount),
   ("intersection_update", changingSet greatestCount),
   ("symmetric_difference_update", fun k m a =>
     if a.positional.isEmpty then Evaluated.misfit "takes exactly one argument"
     else changingSet 1 k m a)]
where
  /-- More arguments than a call has. -/
  greatestCount : Nat := 1000000

/-- The functions of views of keys and entries. -/
def ofKeyViews : List (String × Method) :=
  [("isdisjoint", setTest fun xs ys => (Meaning.common xs ys).isEmpty)]

/-- The value of a key, or another value. -/
def getOr (m : Meaning) (g : Given) : Evaluated Meaning :=
  let key := g.head?.join.getD .nothing
  if !key.isKey then Evaluated.misfit "unhashable key"
  else .ok ((Meaning.valueAt? (entries m) key).getD ((g.drop 1).head?.join.getD .nothing))

/-- Entries as pairs. -/
def pairs (m : Meaning) : List Meaning := (entries m).map fun (k, v) => .tuple [k, v]

/-- The functions of dictionaries. -/
def ofDicts : List (String × Method) :=
  [("get", taking ["", ""] 1 getOr), ("setdefault", taking ["", ""] 1 getOr),
   ("keys", alone fun m => .ok (Meaning.instanceOf "dict_keys" (held m))),
   ("values", alone fun m => .ok (Meaning.instanceOf "dict_values" ((entries m).map Prod.snd))),
   ("items", alone fun m => .ok (Meaning.instanceOf "dict_items" (pairs m))),
   ("pop", taking ["", ""] 1 fun m g =>
     let key := g.head?.join.getD .nothing
     if !key.isKey then Evaluated.misfit "unhashable key"
     else
       match Meaning.valueAt? (entries m) key, (g.drop 1).head?.join with
       | some value, _ => .ok value
       | none, some value => .ok value
       | none, none => Evaluated.noKey key),
   ("popitem", taking ["last"] 0 fun m g =>
     let isLast := (g.head?.join.map Meaning.isTruthy).getD true
     if (g.head?.join).isSome && m.classOf.fullName != "collections.OrderedDict" then
       Evaluated.misfit "takes no arguments"
     else
       match if isLast then (pairs m).getLast? else (pairs m).head? with
       | some pair => .ok pair
       | none => Evaluated.noKey (.text "popitem(): dictionary is empty")),
   ("copy", alone .ok), ("clear", changing [] 0 fun _ _ => .ok ()),
   ("move_to_end", changing ["key", "last"] 1 fun m g =>
     let key := g.head?.join.getD .nothing
     if !key.isKey then Evaluated.misfit "unhashable key"
     else if Meaning.isAmong key (held m) then .ok ()
     else Evaluated.noKey key),
   ("update", fun k _ a => do
     if 1 < a.positional.length then Evaluated.misfit "update expected at most 1 argument"
     else
       let _ ← a.positional.mapM (Construction.entriesOf k)
       return .nothing)]

/-! ## Counts -/

/-- Entries in the order of their counts, the greatest one first; equal ones keep their order. -/
def byCount (entries : List (Meaning × Meaning)) : List (Meaning × Meaning) :=
  entries.mergeSort fun e f => countIn f ≤ countIn e
where
  /-- The count in an entry. -/
  countIn (e : Meaning × Meaning) : Int := e.2.integer?.getD 0

/-- The entries with the greatest counts, as many as asked for. -/
def mostCommon (m : Meaning) (g : Given) : Evaluated Meaning := do
  let pairs := (byCount (entries m)).map fun (item, n) => Meaning.tuple [item, n]
  match g.head?.join with
  | none => return .list pairs
  | some .nothing => return .list pairs
  | most => return .list (pairs.take (← TextMethod.integerOf most).toNat)

/-- Every item as often as it is counted. -/
def repeatedItems (m : Meaning) : List Meaning :=
  (entries m).flatMap fun (item, n) =>
    List.replicate (min (n.integer?.getD 0).toNat Meaning.itemLimit) item

/-- Run through the items to count. -/
def counting : Method := fun k _ a => do
  match ← a.unnamed with
  | [] => return .nothing
  | [.dict ..] => return .nothing
  | [items] =>
    if Meaning.areKeys (← k.items items) then return .nothing
    else Evaluated.misfit "unhashable item"
  | _ => Evaluated.misfit "expected at most 1 argument"

/-- The functions of counts. -/
def ofCounts : List (String × Method) :=
  [("most_common", taking ["n"] 0 mostCommon),
   ("elements", alone fun m => .ok (Meaning.instanceOf "list_iterator" (repeatedItems m))),
   ("total", alone fun m =>
     .ok (.integer (((entries m).map fun e => e.2.integer?.getD 0).foldl (· + ·) 0))),
   ("update", counting), ("subtract", counting),
   ("fromkeys", fun _ _ a =>
     if a.positional.isEmpty then Evaluated.misfit "missing argument"
     else throw (.raised .notImplemented
       "Counter.fromkeys() is undefined.  Use Counter(iterable) instead."))]

/-! ## Numbers -/

/-- Whether bytes are in the order from the last one to the first one. -/
def isLittle (m : Option Meaning) : Evaluated Bool :=
  match m with
  | none => .ok false
  | some (.text "big") => .ok false
  | some (.text "little") => .ok true
  | some (.text _) => Evaluated.invalid "byteorder must be either 'little' or 'big'"
  | some _ => Evaluated.misfit "byteorder must be str"

/-- The bytes of an integer, of a given number and in a given order. -/
def bytesOf (n : Int) (g : Given) : Evaluated Meaning := do
  let count ← match g.head?.join with
    | none => pure 1
    | m => TextMethod.placeOf m
  let little ← isLittle ((g.drop 1).head?.join)
  let signed := ((g.drop 2).head?.join).any Meaning.isTruthy
  if count < 0 then Evaluated.invalid "length argument must be non-negative"
  else if n < 0 ∧ !signed then
    Evaluated.overflowOf "can't convert negative int to unsigned"
  else if Meaning.itemLimit < count then Meaning.uncomputed count.toNat
  else
    let whole : Int := Int.pow 256 count.toNat
    let top := if signed then whole / 2 else whole
    if top ≤ n ∨ n < -top then Evaluated.overflowOf "int too big to convert"
    else
      let m := (if n < 0 then n + whole else n).toNat
      let bs := lowBytes count.toNat m []
      return .bytes (if little then bs.reverse else bs) false
where
  /-- The lowest bytes of a number in front of others, the highest one first. -/
  lowBytes : Nat → Nat → List UInt8 → List UInt8
    | 0, _, others => others
    | count + 1, m, others => lowBytes count (m / 256) (UInt8.ofNat (m % 256) :: others)

/-- The integer that bytes in a given order are. -/
def integerOfBytes (k : Machine) (g : Given) : Evaluation Meaning := do
  let little ← isLittle ((g.drop 1).head?.join)
  let bs ← match g.head?.join with
    | some (.bytes bs _) => pure bs
    | some (.text _) => Evaluated.misfit "cannot convert 'str' object to bytes"
    | m => do
      let items ← k.items (m.getD .nothing)
      items.mapM fun m => (Construction.byteOf m : Evaluated UInt8)
  let bs := if little then bs.reverse else bs
  let n : Nat := bs.foldl (fun n b => 256 * n + b.toNat) 0
  let isNegative := ((g.drop 2).head?.join).any Meaning.isTruthy && (bs.head?.any fun b => 128 ≤ b)
  return .integer (if isNegative then (n : Int) - Int.pow 256 bs.length else n)

/-- A quotient of integers as a pair. -/
def ratio (n d : Int) : Meaning :=
  let g : Int := (Int.gcd n d : Nat)
  .tuple [.integer (n / g), .integer (d / g)]

/-- The functions of numbers. -/
def ofNumbers : List (String × Method) :=
  [("bit_length", alone fun m => .ok (.integer (Number.bitLength (m.integer?.getD 0)))),
   ("bit_count", alone fun m => .ok (.integer
     (((Format.digitsIn 2 (m.integer?.getD 0).natAbs).filter (· == '1')).length))),
   ("conjugate", alone fun m => match m with
     | .complex x y => .ok (.complex x y.neg)
     | m => .ok (((m.integer?).map Meaning.integer).getD m)),
   ("is_integer", alone fun m => match m with
     | .real x => .ok (.truth x.toInt?.isSome)
     | m => Evaluated.lacking m "is_integer"),
   ("as_integer_ratio", alone fun m => match m with
     | .real x =>
       match x.quotient?, x with
       | some (n, d), _ => .ok (ratio n d)
       | none, .infinity _ => Evaluated.overflowOf "cannot convert Infinity to integer ratio"
       | none, _ => Evaluated.invalid "cannot convert NaN to integer ratio"
     | m => .ok (.tuple [.integer (m.integer?.getD 0), .integer 1])),
   ("to_bytes", taking ["length", "byteorder", "signed"] 0 fun m g =>
     bytesOf (m.integer?.getD 0) g),
   ("hex", alone fun m => match m with
     | .real x => .ok (.text x.hexText)
     | m => Evaluated.lacking m "hex")]

/-! ## Texts -/

/-- Texts joined. -/
def joined (separator : String) (items : List Meaning) : Evaluated Meaning := do
  let parts ← items.mapM fun m =>
    (match m with
      | .text s => .ok s
      | .unknown => .ok ""
      | _ => Evaluated.misfit "expected str instance" : Evaluated String)
  return .text (String.intercalate separator parts)

/-- Byte texts joined. -/
def joinedBytes (separator : List UInt8) (isMutable : Bool) (items : List Meaning) :
    Evaluated Meaning := do
  let parts ← items.mapM fun m =>
    (match m with
      | .bytes bs _ => .ok bs
      | _ => Evaluated.misfit "expected a bytes-like object" : Evaluated (List UInt8))
  return .bytes (List.intercalate separator parts) isMutable

/-- The functions of texts that are not described by parameters alone. -/
def ofTexts : List (String × Method) :=
  [("join", fun k m a => do
     match ← a.unnamed, m with
     | [items], .text s => do return (← joined s (← k.items items))
     | [items], .bytes bs isMutable => do return (← joinedBytes bs isMutable (← k.items items))
     | _, _ => Evaluated.misfit "takes exactly one argument"),
   ("format", fun _ m a => do
     return .text (← Meaning.ofFields m.plain
       { values := a.positional.toArray, named := a.named })),
   ("format_map", withOne fun m given => do
     return .text (← Meaning.ofFields m.plain
       { values := #[], named := [], mapping := some given }))]

/-! ## Functions of classes -/

/-- The table that texts translate characters by. -/
def table (g : Given) : Evaluated Meaning :=
  let code := fun (c : Char) => Meaning.integer c.toNat
  match g with
  | [some (.dict _ entries), none, none] =>
    .ok (.dict "dict" (entries.map fun (k, v) =>
      match k with
      | .text s => ((s.toList.head?.map code).getD k, v)
      | k => (k, v)))
  | [some (.text s), some (.text t), dropped] =>
    if s.length ≠ t.length then Evaluated.invalid "arguments must have equal length"
    else
      let replaced := (s.toList.zip t.toList).map fun (c, d) => (code c, code d)
      let gone := match dropped with
        | some (.text u) => u.toList.map fun c => (code c, Meaning.nothing)
        | _ => []
      .ok (.dict "dict" (Meaning.merged [] (replaced ++ gone)))
  | _ => Evaluated.misfit "maketrans() takes a dict or two texts"

/-- The functions of classes. -/
def ofClasses : List (String × Method) :=
  [("mro", alone fun c => .ok (.list c.ancestors)),
   ("__subclasses__", fun _ _ _ => return .unknown),
   ("__instancecheck__", withOne fun c m => .ok (.truth (m.classOf.isSubclass c))),
   ("__subclasscheck__", withOne fun c d => .ok (.truth (d.isSubclass c))),
   ("__subclasshook__", withOne fun _ _ => .ok .unimplemented),
   ("__init_subclass__", fun _ _ _ => return .nothing),
   ("__class_getitem__", withOne fun c index => Meaning.applyClass c index),
   ("__or__", withOne fun c m => (Meaning.atBar c m).tryCatch fun _ => .ok .unimplemented),
   ("__ror__", withOne fun c m => (Meaning.atBar m c).tryCatch fun _ => .ok .unimplemented),
   ("__call__", fun k c a => k.call c a), ("register", withOne fun _ c => .ok c),
   ("__new__", fun k _ a =>
     match a.positional with
     | c :: rest => k.call c { a with positional := rest }
     | [] => Evaluated.misfit "not enough arguments"),
   ("fromkeys", fun k c a => do
     match ← a.unnamed with
     | items :: rest => do
       let keys ← k.items items
       let value := rest.head?.getD .nothing
       if Meaning.areKeys keys then
         return .dict c.fullName (Meaning.merged [] (keys.map fun key => (key, value)))
       else Evaluated.misfit "unhashable key"
     | [] => Evaluated.misfit "missing argument"),
   ("fromhex", withOne fun c m =>
     match m, c.fullName with
     | .text s, "float" =>
       match Number.Binary64.ofHexText? (Text.trim s.toList) with
       | some (.infinity negative) =>
         if s.toList.any fun c => c.toLower == 'i' then .ok (.real (.infinity negative))
         else Evaluated.overflow
       | some x => .ok (.real x)
       | none => Evaluated.invalid "invalid hexadecimal floating-point string"
     | .text s, name =>
       match Text.bytesOfHex? s.toList with
       | some bs => .ok (.bytes bs (name == "bytearray"))
       | none => Evaluated.invalid "non-hexadecimal number found"
     | _, _ => Evaluated.misfit "fromhex() argument must be str"),
   ("from_bytes", fun k _ a => do
     integerOfBytes k (← a.bind ["bytes", "byteorder", "signed"] 1)),
   ("maketrans", taking ["", "", ""] 1 fun _ g => table g),
   ("__prepare__", fun _ _ _ => return .dict "dict" [])]

/-! ## Iterators and failures -/

/-- The failure that an instance or class of failures is. -/
def failureOf (m : Meaning) : Failure :=
  let c := if m.isClass then m else m.classOf
  let known := (c.ancestors.filterMap fun d =>
    match d with
    | .type name => some name
    | _ => none).head?.getD "TypeError"
  if c.isBelow "BaseException" then .elementary (kindOfClass known) m.plain
  else .elementary .wrongType "exceptions must be classes or instances"

/-- The first item of a value that is run through. -/
def firstItem (k : Machine) (m : Meaning) : Evaluation Meaning := do
  match ← k.items m with
  | item :: _ => return item
  | [] => Evaluated.exhausted

/-- The functions of generators. -/
def ofGenerators : List (String × Method) :=
  [("send", fun k m a => do
     match ← a.unnamed with
     | [.nothing] => firstItem k m
     | _ => Evaluated.misfit "can't send a value to a just-started generator"),
   ("close", alone fun _ => .ok .nothing),
   ("throw", fun _ _ a => throw (failureOf (a.positional.head?.getD .nothing)))]

/-- The functions of failures. -/
def ofFailures : List (String × Method) :=
  [("with_traceback", withOne fun m trace =>
     if trace matches .nothing then .ok m
     else Evaluated.misfit "__traceback__ must be a traceback or None"),
   ("add_note", changing [""] 1 fun _ g => do
     let _ ← TextMethod.textOf g.head?.join)]

/-- The functions of runs of places. -/
def ofSlices : List (String × Method) :=
  [("indices", withOne fun m length =>
     match m, length.integer? with
     | .slice start stop step, some n =>
       if n < 0 then Evaluated.invalid "length should not be negative"
       else do
         let (first, last, step) ← Meaning.run n.toNat start stop step
         return .tuple [.integer first, .integer last, .integer step]
     | _, _ => Evaluated.misfit "an integer is required")]

end Method
end Annotation
end BoundUpdate
