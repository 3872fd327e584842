import BoundUpdate.Annotation.Fault
import BoundUpdate.Number.IntegerText

namespace BoundUpdate
namespace Annotation
namespace Meaning

/-!
# Writing values

A value is written as it is shown or plainly.  Integers have a limit of digits,
and what holds an integer beyond it cannot be written.
-/

/-- Whether an integer has no more digits than may be written. -/
def isShort (n : Int) : Bool :=
  n.natAbs.log2 < 3 * Number.digitLimit || n.natAbs < Nat.pow 10 Number.digitLimit

mutual

/-- Whether a value can be written: all integers in it are short. -/
def isWritable : Meaning → Bool
  | .integer n => isShort n
  | .tuple items => areWritable items
  | .list items => areWritable items
  | .set items _ => areWritable items
  | .dict _ entries => areEntriesWritable entries
  | .slice a b c => isWritable a && isWritable b && isWritable c
  | .range a b c => isShort a && isShort b && isShort c
  | .object _ contents => areWritable contents
  | _ => true
termination_by structural m => m

/-- Whether all values can be written. -/
def areWritable : List Meaning → Bool
  | [] => true
  | m :: rest => isWritable m && areWritable rest
termination_by structural ms => ms

/-- Whether all keys and values can be written. -/
def areEntriesWritable : List (Meaning × Meaning) → Bool
  | [] => true
  | (k, v) :: rest => isWritable k && isWritable v && areEntriesWritable rest
termination_by structural es => es

end

/-- The failure of an integer that is too long. -/
def tooLong {α : Type} : Evaluated α :=
  Evaluated.invalid "Exceeds the limit (4300 digits) for integer string conversion"

/-- A value written as it is shown. -/
def inFull (m : Meaning) : Evaluated String := if m.isWritable then .ok m.shown else tooLong

/-- A value written plainly. -/
def inShort (m : Meaning) : Evaluated String := if m.isWritable then .ok m.plain else tooLong

/-- A character by its code point in two, four or eight hexadecimal digits. -/
def byCode (c : Char) : List Char :=
  let n := c.toNat
  if n < 0x100 then '\\' :: 'x' :: Text.hexDigits 2 n
  else if n < 0x10000 then '\\' :: 'u' :: Text.hexDigits 4 n
  else '\\' :: 'U' :: Text.hexDigits 8 n

/-- A text in which characters outside ASCII stand by their code points. -/
def inAscii (s : String) : String :=
  String.ofList (s.toList.flatMap fun c => if c.toNat < 128 then [c] else byCode c)

end Meaning
end Annotation
end BoundUpdate
