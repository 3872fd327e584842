namespace BoundUpdate
namespace Text

/-!
# Bytes as text

Bytes are read as UTF-8.  Where they are malformed, the longest start of a
character's bytes counts as one malformed piece.  A strict reading refuses
malformed pieces, a tolerant one puts the replacement character in their place.
-/

namespace Utf8

/-- Read continuation bytes, each of which must lie in its range, onto a code point's upper bits;
answers the code point, unless a byte is missing, and the bytes that were not used. -/
def continuation (code : Nat) : List (Nat × Nat) → List UInt8 → Option Nat × List UInt8
  | [], bytes => (some code, bytes)
  | _ :: _, [] => (none, [])
  | (first, last) :: ranges, b :: bytes =>
    if first ≤ b.toNat ∧ b.toNat ≤ last then
      continuation (code * 64 + b.toNat % 64) ranges bytes
    else (none, b :: bytes)

/-- A continuation byte without restriction. -/
def anyByte : Nat × Nat := (0x80, 0xBF)

/-- The upper bits that a leading byte contributes, and the ranges of the bytes after it. -/
def lead? (b : Nat) : Option (Nat × List (Nat × Nat)) :=
  if b < 0x80 then some (b, [])
  else if b < 0xC2 then none
  else if b < 0xE0 then some (b - 0xC0, [anyByte])
  else if b < 0xF0 then
    let second := if b = 0xE0 then (0xA0, 0xBF) else if b = 0xED then (0x80, 0x9F) else anyByte
    some (b - 0xE0, [second, anyByte])
  else if b < 0xF5 then
    let second := if b = 0xF0 then (0x90, 0xBF) else if b = 0xF4 then (0x80, 0x8F) else anyByte
    some (b - 0xF0, [second, anyByte, anyByte])
  else none

/-- The first piece of bytes, and the bytes after it. -/
def piece (b : UInt8) (bytes : List UInt8) : Option Char × List UInt8 :=
  match lead? b.toNat with
  | none => (none, bytes)
  | some (code, ranges) =>
    let (code, bytes) := continuation code ranges bytes
    (code.map Char.ofNat, bytes)

theorem continuation_length_le (code : Nat) (ranges : List (Nat × Nat)) (bytes : List UInt8) :
    (continuation code ranges bytes).2.length ≤ bytes.length := by
  induction ranges generalizing code bytes with
  | nil => simp [continuation]
  | cons range ranges ih =>
    cases bytes with
    | nil => simp [continuation]
    | cons b bytes =>
      simp only [continuation]
      split
      · exact Nat.le_succ_of_le (ih _ _)
      · simp

theorem piece_length_le (b : UInt8) (bytes : List UInt8) :
    (piece b bytes).2.length ≤ bytes.length := by
  unfold piece
  split
  · simp
  · exact continuation_length_le _ _ _

/-- The pieces of bytes; a malformed piece is `none`. -/
def pieces : List UInt8 → List (Option Char)
  | [] => []
  | b :: bytes =>
    have : (piece b bytes).2.length < bytes.length + 1 :=
      Nat.lt_succ_of_le (piece_length_le b bytes)
    (piece b bytes).1 :: pieces (piece b bytes).2
termination_by bytes => bytes.length

/-- All pieces, if none is malformed. -/
def allPieces? : List (Option Char) → Option (List Char)
  | [] => some []
  | none :: _ => none
  | some c :: rest => (allPieces? rest).map (c :: ·)

/-- The text of bytes that hold no malformed piece. -/
def decode? (bytes : List UInt8) : Option (List Char) := allPieces? (pieces bytes)

/-- The text of bytes, with the replacement character for malformed pieces. -/
def decodeTolerant (bytes : List UInt8) : List Char :=
  (pieces bytes).map fun piece => piece.getD '\uFFFD'

end Utf8

/-- Lines end in a line feed only: a carriage return, alone or before a line feed, becomes one. -/
def unifyLines : List Char → List Char
  | [] => []
  | '\r' :: '\n' :: rest => '\n' :: unifyLines rest
  | '\r' :: rest => '\n' :: unifyLines rest
  | c :: rest => c :: unifyLines rest

end Text
end BoundUpdate
