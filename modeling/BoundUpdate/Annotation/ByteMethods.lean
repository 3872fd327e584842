import BoundUpdate.Annotation.Methods

namespace BoundUpdate
namespace Annotation
namespace Method

/-!
# Functions of byte texts

What byte texts have beside the functions of texts: they are decoded, written in
hexadecimal digits, translated by tables of bytes and, when they may change,
used like lists of bytes.
-/

/-- The bytes of an argument that must be a byte text. -/
def bytesIn (m : Option Meaning) : Evaluated (List UInt8) :=
  match m with
  | some (.bytes bs _) => .ok bs
  | some (.object c items) =>
    if c.fullName = "memoryview" then items.mapM fun m => Construction.byteOf m
    else Evaluated.misfit "a bytes-like object is required"
  | _ => Evaluated.misfit "a bytes-like object is required"

/-- The bytes that a value holds. -/
def bytesOfHolder (m : Meaning) : List UInt8 :=
  match bytesIn (some m) with
  | .ok bs => bs
  | .error _ => []

/-- Bytes with the same class as a value that holds bytes. -/
def bytesLike (m : Meaning) (bs : List UInt8) : Meaning :=
  match m with
  | .bytes _ isMutable => .bytes bs isMutable
  | _ => .bytes bs false

/-! ## Hexadecimal digits -/

/-- The character between groups of digits, which must be a text or a byte text of one. -/
def separatorOf (m : Meaning) : Evaluated Char :=
  match m.length?, m with
  | none, _ => Evaluated.misfit "object has no len()"
  | some 1, .text s =>
    match s.toList with
    | [c] => if c.toNat < 128 then .ok c else Evaluated.invalid "sep must be ASCII."
    | _ => Evaluated.invalid "sep must be length 1."
  | some 1, .bytes [b] _ =>
    if b.toNat < 128 then .ok (Char.ofNat b.toNat) else Evaluated.invalid "sep must be ASCII."
  | some 1, _ => Evaluated.misfit "sep must be str or bytes."
  | some _, _ => Evaluated.invalid "sep must be length 1."

/-- Whether a separator stands in front of the byte at a place: groups are counted from the end,
with a negative size from the start. -/
def startsGroup (length : Nat) (size : Int) (i : Nat) : Bool :=
  i != 0 && size != 0 &&
    (if 0 < size then (length - i) % size.natAbs == 0 else i % size.natAbs == 0)

/-- Two hexadecimal digits for each byte, in groups. -/
def hexText (bs : List UInt8) (g : Given) : Evaluated Meaning := do
  let digits := fun (b : UInt8) => Text.hexDigits 2 b.toNat
  match g.head?.join with
  | none => return .text (String.ofList (bs.flatMap digits))
  | some m =>
    let separator ← separatorOf m
    let size ← match (g.drop 1).head?.join with
      | none => pure 1
      | size => TextMethod.integerOf size
    return .text (String.ofList (bs.zipIdx.flatMap fun (b, i) =>
      if startsGroup bs.length size i then separator :: digits b else digits b))

/-! ## Tables -/

/-- The table that gives a byte for every byte. -/
def byteTable (before after : List UInt8) : List UInt8 :=
  (List.range 256).map fun n =>
    let b := UInt8.ofNat n
    ((before.zip after).reverse.lookup b).getD b

/-- The table that byte texts translate bytes by. -/
def tableOfBytes (g : Given) : Evaluated Meaning := do
  let before ← bytesIn g.head?.join
  let after ← bytesIn ((g.drop 1).head?.join)
  if before.length = after.length then return .bytes (byteTable before after) false
  else Evaluated.invalid "maketrans arguments must have same length"

/-- Bytes without some of them, the other ones replaced by those of a table. -/
def translated (m : Meaning) (g : Given) : Evaluated Meaning := do
  let table ← match g.head?.join with
    | some .nothing => pure none
    | table => do pure (some (← bytesIn table))
  if table.any fun t => t.length ≠ 256 then
    Evaluated.invalid "translation table must be 256 characters long"
  else
    let dropped ← match (g.drop 1).head?.join with
      | none => pure []
      | dropped => bytesIn dropped
    let kept := (bytesOfHolder m).filter fun b => !dropped.contains b
    let replaced := match table with
      | none => kept
      | some table => kept.map fun b => table[b.toNat]?.getD b
    return bytesLike m replaced

/-! ## Bytes that may change -/

/-- A function that changes bytes by the byte that an argument must be. -/
def takingByte (parameters : List String) (check : List UInt8 → UInt8 → Evaluated Unit) : Method :=
  changing parameters parameters.length fun m g => do
    check (bytesOfHolder m) (← Construction.byteOf (g.getLast?.join.getD .nothing))

/-- The functions of byte texts that may change. -/
def ofMutableBytes : List (String × Method) :=
  [("append", takingByte [""] fun _ _ => .ok ()),
   ("remove", takingByte [""] fun bs b =>
     if bs.contains b then .ok () else Evaluated.invalid "value not found in bytearray"),
   ("insert", fun k m a => do
     match ← a.unnamed with
     | [place, _] =>
       let _ ← TextMethod.placeOf (some place)
       takingByte ["", ""] (fun _ _ => .ok ()) k m a
     | _ => Evaluated.misfit "insert expected 2 arguments"),
   ("pop", taking [""] 0 fun m g => do
     let i ← match g.head?.join with
       | none => pure (-1)
       | i => TextMethod.placeOf i
     let bs := bytesOfHolder m
     match (Meaning.place? bs.length i).bind fun n => bs[n]? with
     | some b => return Meaning.ofByte b
     | none => Evaluated.outside),
   ("extend", fun k _ a => do
     match ← a.unnamed with
     | [.text _] => Evaluated.misfit "expected iterable of integers; got: 'str'"
     | [items] =>
       let _ ← (← k.items items).mapM fun m => (Construction.byteOf m : Evaluated UInt8)
       return .nothing
     | _ => Evaluated.misfit "extend expected 1 argument"),
   ("clear", changing [] 0 fun _ _ => .ok ()), ("reverse", changing [] 0 fun _ _ => .ok ()),
   ("copy", alone .ok)]

/-! ## All byte texts -/

/-- The functions of byte texts that texts do not have. -/
def ofBytes : List (String × Method) :=
  [("decode", taking ["encoding", "errors"] 0 fun m g => do
     let (encoding, handling) ← TextMethod.encodingOf g.head?.join (g.drop 1).head?.join
     return TextMethod.text (← TextMethod.decoded encoding handling (bytesOfHolder m))),
   ("hex", taking ["sep", "bytes_per_sep"] 0 fun m g => hexText (bytesOfHolder m) g),
   ("translate", taking ["", "delete"] 1 translated)]

/-- The functions of classes of byte texts. -/
def ofByteClasses : List (String × Method) :=
  [("maketrans", taking ["", ""] 2 fun _ g => tableOfBytes g)]

/-- The functions of views of bytes. -/
def ofViews : List (String × Method) :=
  [("tobytes", taking ["order"] 0 fun m g =>
     match g.head?.join with
     | none => .ok (.bytes (bytesOfHolder m) false)
     | some .nothing => .ok (.bytes (bytesOfHolder m) false)
     | some (.text s) =>
       if ["C", "F", "A"].contains s then .ok (.bytes (bytesOfHolder m) false)
       else Evaluated.invalid "order must be 'C', 'F' or 'A'"
     | some _ => Evaluated.misfit "order must be str or None"),
   ("tolist", alone fun m => .ok (.list (held m))),
   ("hex", taking ["sep", "bytes_per_sep"] 0 fun m g => hexText (bytesOfHolder m) g),
   ("toreadonly", alone .ok), ("release", alone fun _ => .ok .nothing), ("__enter__", alone .ok)]

/-- The functions of byte texts that search for a part. -/
def searching : List String := ["find", "rfind", "index", "rindex", "count"]

/-- Arguments of a search in which an integer stands for the byte that it is. -/
def soughtByte (a : Arguments) : Evaluated Arguments :=
  match a.positional with
  | m :: rest =>
    match m.integer? with
    | some n =>
      if 0 ≤ n ∧ n < 256 then
        .ok { a with positional := .bytes [UInt8.ofNat n.toNat] false :: rest }
      else Evaluated.invalid "byte must be in range(0, 256)"
    | none => .ok a
  | [] => .ok a

end Method
end Annotation
end BoundUpdate
