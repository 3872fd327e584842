import BoundUpdate.Number.Digits
import BoundUpdate.Text.Percent
import Mathlib.Data.Char
import Mathlib.Data.List.Basic
import Mathlib.Tactic.SplitIfs

namespace BoundUpdate
namespace Text

/-!
# Percent escapes read back

A text is escaped by writing the bytes of its UTF-8 form as percent signs and two
hexadecimal digits, all characters except unreserved ones.  What is written so
holds unreserved characters and percent signs only, so no mark of an address, and
reads back as the text whatever stands in it.
-/

namespace Utf8

/-! ## The bytes of a character -/

theorem toNat_byte {n : Nat} (h : n < 256) : (UInt8.ofNat n).toNat = n := by
  rw [UInt8.toNat_ofNat']
  omega

/-- A byte in its range is read onto the code point. -/
theorem continuation_cons {code first last n : Nat} (hfirst : first ≤ n) (hlast : n ≤ last)
    (hbyte : n < 256) (ranges : List (Nat × Nat)) (bytes : List UInt8) :
    continuation code ((first, last) :: ranges) (UInt8.ofNat n :: bytes) =
      continuation (code * 64 + n % 64) ranges bytes := by
  rw [continuation, toNat_byte hbyte, if_pos ⟨hfirst, hlast⟩]

/-- A leading byte with the bytes that it asks for is read as one piece. -/
theorem piece_of_lead {n code value : Nat} {ranges : List (Nat × Nat)} {bytes rest : List UInt8}
    (hbyte : n < 256) (hlead : lead? n = some (code, ranges))
    (h : continuation code ranges bytes = (some value, rest)) :
    piece (UInt8.ofNat n) bytes = (some (Char.ofNat value), rest) := by
  simp only [piece, toNat_byte hbyte, hlead, h, Option.map_some]

theorem lead?_one {n : Nat} (h : n < 0x80) : lead? n = some (n, []) := by
  rw [lead?, if_pos h]

theorem lead?_two {n : Nat} (hfirst : 0xC2 ≤ n) (hlast : n < 0xE0) :
    lead? n = some (n - 0xC0, [anyByte]) := by
  rw [lead?, if_neg (by omega), if_neg (by omega), if_pos hlast]

theorem lead?_three {n : Nat} (hfirst : 0xE0 ≤ n) (hlast : n < 0xF0) :
    lead? n = some (n - 0xE0,
      [if n = 0xE0 then (0xA0, 0xBF) else if n = 0xED then (0x80, 0x9F) else anyByte,
        anyByte]) := by
  rw [lead?, if_neg (by omega), if_neg (by omega), if_neg (by omega), if_pos hlast]

theorem lead?_four {n : Nat} (hfirst : 0xF0 ≤ n) (hlast : n < 0xF5) :
    lead? n = some (n - 0xF0,
      [if n = 0xF0 then (0x90, 0xBF) else if n = 0xF4 then (0x80, 0x8F) else anyByte, anyByte,
        anyByte]) := by
  rw [lead?, if_neg (by omega), if_neg (by omega), if_neg (by omega), if_neg (by omega),
    if_pos hlast]

/-- A byte in the range of a second byte is read onto the code point. -/
theorem continuation_second {code n : Nat} {range : Nat × Nat} (h : range.1 ≤ n ∧ n ≤ range.2)
    (hbyte : n < 256) (ranges : List (Nat × Nat)) (bytes : List UInt8) :
    continuation code (range :: ranges) (UInt8.ofNat n :: bytes) =
      continuation (code * 64 + n % 64) ranges bytes :=
  continuation_cons h.1 h.2 hbyte ranges bytes

/-- A byte without restriction adds its six bits. -/
theorem continuation_anyByte (code n : Nat) (ranges : List (Nat × Nat)) (bytes : List UInt8) :
    continuation code (anyByte :: ranges) (UInt8.ofNat (n % 64 + 128) :: bytes) =
      continuation (code * 64 + n % 64) ranges bytes := by
  rw [anyByte, continuation_cons (by omega) (by omega) (by omega)]
  congr 2
  omega

/-- The bytes of a character are read as one piece. -/
theorem piece_encodeChar (c : Char) (rest : List UInt8) :
    ∃ b bytes, String.utf8EncodeChar c = b :: bytes ∧ piece b (bytes ++ rest) = (some c, rest) := by
  have hvalid : c.toNat < 0xD800 ∨ 0xDFFF < c.toNat ∧ c.toNat < 0x110000 := c.valid
  have hback : Char.ofNat c.toNat = c := Char.ofNat_toNat c
  have hcode : c.val.toNat = c.toNat := rfl
  rw [String.utf8EncodeChar, hcode]
  generalize c.toNat = n at hvalid hback
  subst hback
  -- the size of the code point tells the number of bytes; the ranges of second bytes leave out what
  -- fewer bytes can write and the surrogates, which are no characters
  split_ifs with hone htwo hthree
  · exact ⟨_, _, rfl, piece_of_lead (by omega) (lead?_one (by omega)) rfl⟩
  · refine ⟨_, _, rfl, piece_of_lead (by omega) (lead?_two (by omega) (by omega)) ?_⟩
    rw [List.cons_append, continuation_anyByte, continuation]
    congr 2
    omega
  · refine ⟨_, _, rfl, piece_of_lead (by omega) (lead?_three (by omega) (by omega)) ?_⟩
    rw [List.cons_append, continuation_second ?_ (by omega), List.cons_append,
      continuation_anyByte, continuation]
    · congr 2
      omega
    · split_ifs <;> dsimp only [anyByte] <;> omega
  · refine ⟨_, _, rfl, piece_of_lead (by omega) (lead?_four (by omega) (by omega)) ?_⟩
    rw [List.cons_append, continuation_second ?_ (by omega), List.cons_append,
      continuation_anyByte, List.cons_append, continuation_anyByte, continuation]
    · congr 2
      omega
    · split_ifs <;> dsimp only [anyByte] <;> omega

/-- The bytes of a text are read as the text. -/
theorem decodeTolerant_encode (s : List Char) :
    decodeTolerant (s.flatMap String.utf8EncodeChar) = s := by
  induction s with
  | nil => simp [decodeTolerant, pieces]
  | cons c s ih =>
    obtain ⟨b, bytes, hbytes, hpiece⟩ := piece_encodeChar c (s.flatMap String.utf8EncodeChar)
    rw [decodeTolerant] at ih ⊢
    rw [List.flatMap_cons, hbytes, List.cons_append, pieces, hpiece, List.map_cons, ih]
    rfl

end Utf8

/-! ## Escaping -/

/-- Whether a character stands for itself everywhere in an address. -/
def isUnreserved (c : Char) : Bool :=
  ('a' ≤ c && c ≤ 'z') || ('A' ≤ c && c ≤ 'Z') || ('0' ≤ c && c ≤ '9') ||
    c == '-' || c == '.' || c == '_' || c == '~'

/-- An upper case hexadecimal digit. -/
def upperHexDigit (n : Nat) : Char :=
  if n < 10 then Char.ofNat (48 + n) else Char.ofNat (55 + n)

/-- The percentEncode of a byte. -/
def percentByte (b : UInt8) : List Char :=
  ['%', upperHexDigit (b.toNat / 16), upperHexDigit (b.toNat % 16)]

/-- A character as it is if it is unreserved, and else the escapes of its bytes. -/
def percentChar (c : Char) : List Char :=
  if isUnreserved c then [c] else (String.utf8EncodeChar c).flatMap percentByte

/-- A text with all characters escaped except unreserved ones. -/
def percentEncode (s : String) : List Char := s.toList.flatMap percentChar

theorem hexValue?_upperHexDigit {n : Nat} (h : n < 16) : hexValue? (upperHexDigit n) = some n := by
  revert n
  decide

theorem isUnreserved_upperHexDigit {n : Nat} (h : n < 16) :
    isUnreserved (upperHexDigit n) = true := by
  revert n
  decide

/-- An unreserved character is a visible ASCII character and no percent sign. -/
theorem lt_of_isUnreserved {c : Char} (h : isUnreserved c = true) :
    0x20 < c.toNat ∧ c.toNat < 128 ∧ c ≠ '%' := by
  have hbounds : 0x20 < c.toNat ∧ c.toNat < 128 := by
    simp only [isUnreserved, Bool.or_eq_true, Bool.and_eq_true, decide_eq_true_eq, beq_iff_eq,
      Char.le_def, UInt32.le_iff_toNat_le] at h
    have hcode : c.toNat = c.val.toNat := rfl
    rcases h with
      (((((⟨hfirst, hlast⟩ | ⟨hfirst, hlast⟩) | ⟨hfirst, hlast⟩) | rfl) | rfl) | rfl) | rfl
    all_goals first
      | decide
      | exact hcode ▸ ⟨Nat.lt_of_lt_of_le (by decide) hfirst, Nat.lt_of_le_of_lt hlast (by decide)⟩
  refine ⟨hbounds.1, hbounds.2, ?_⟩
  rintro rfl
  revert h
  decide

theorem isUnreserved_of_isDigit {c : Char} (h : Number.isDigit c = true) :
    isUnreserved c = true := by
  simp only [Number.isDigit, Bool.and_eq_true, decide_eq_true_eq] at h
  have hdigit : '0' ≤ c ∧ c ≤ '9' := h
  simp [isUnreserved, hdigit]

/-! ## Texts without further marks -/

/-- Whether a text consists of unreserved characters and some marks. -/
def Consists (marks s : List Char) : Prop := ∀ c ∈ s, isUnreserved c = true ∨ c ∈ marks

variable {marks others s t : List Char}

theorem Consists.append (hs : Consists marks s) (ht : Consists marks t) :
    Consists marks (s ++ t) := by
  intro c hc
  rcases List.mem_append.1 hc with h | h
  · exact hs c h
  · exact ht c h

theorem Consists.cons {c : Char} (hc : c ∈ marks) (hs : Consists marks s) :
    Consists marks (c :: s) := by
  intro d hd
  rcases List.mem_cons.1 hd with rfl | h
  · exact .inr hc
  · exact hs d h

theorem Consists.mono (h : Consists marks s) (hsub : marks ⊆ others) : Consists others s :=
  fun c hc => (h c hc).imp_right fun hmark => hsub hmark

theorem consists_of_forall (h : ∀ c ∈ s, isUnreserved c = true) : Consists marks s :=
  fun c hc => .inl (h c hc)

/-- A reserved character that is none of the marks does not occur. -/
theorem Consists.not_mem (h : Consists marks s) {c : Char} (hreserved : isUnreserved c = false)
    (hmark : c ∉ marks) : c ∉ s := by
  intro hc
  rcases h c hc with hunreserved | hmem
  · cases hreserved.symm.trans hunreserved
  · exact hmark hmem

theorem Consists.ne (h : Consists marks s) {c : Char} (hc : c ∈ s) (d : Char)
    (hreserved : isUnreserved d = false) (hmark : d ∉ marks) : c ≠ d := by
  rintro rfl
  exact h.not_mem hreserved hmark hc

/-! ## Escaped texts -/

theorem consists_percentEncode (s : String) : Consists ['%'] (percentEncode s) := by
  intro c h
  obtain ⟨d, -, hc⟩ := List.mem_flatMap.1 h
  rw [percentChar] at hc
  split at hc
  · next hd => exact .inl (List.mem_singleton.1 hc ▸ hd)
  · obtain ⟨b, -, hb⟩ := List.mem_flatMap.1 hc
    have hbyte : b.toNat < 256 := b.toNat_lt
    simp only [percentByte, List.mem_cons, List.not_mem_nil, or_false] at hb
    rcases hb with rfl | rfl | rfl
    · exact .inr List.mem_cons_self
    · exact .inl (isUnreserved_upperHexDigit (by omega))
    · exact .inl (isUnreserved_upperHexDigit (by omega))

theorem lt_of_mem_percentEncode {s : String} {c : Char} (h : c ∈ percentEncode s) :
    c.toNat < 128 := by
  rcases consists_percentEncode s c h with hunreserved | hpercent
  · exact (lt_of_isUnreserved hunreserved).2.1
  · rw [List.mem_singleton.1 hpercent]
    decide

/-! ## Reading back -/

theorem escapedBytes_percentByte (b : UInt8) (rest : List Char) :
    escapedBytes (percentByte b ++ rest) = b :: escapedBytes rest := by
  have hbyte : b.toNat < 256 := b.toNat_lt
  have hwhole : 16 * (b.toNat / 16) + b.toNat % 16 = b.toNat := by omega
  change escapedBytes
    ('%' :: upperHexDigit (b.toNat / 16) :: upperHexDigit (b.toNat % 16) :: rest) = _
  rw [escapedBytes, hexValue?_upperHexDigit (by omega), hexValue?_upperHexDigit (by omega)]
  dsimp only
  rw [hwhole, UInt8.ofNat_toNat]

theorem escapedBytes_flatMap_percentByte (bytes : List UInt8) (rest : List Char) :
    escapedBytes (bytes.flatMap percentByte ++ rest) = bytes ++ escapedBytes rest := by
  induction bytes with
  | nil => rfl
  | cons b bytes ih =>
    rw [List.flatMap_cons, List.append_assoc, escapedBytes_percentByte, ih, List.cons_append]

theorem escapedBytes_cons {c : Char} (h : c ≠ '%') (rest : List Char) :
    escapedBytes (c :: rest) = UInt8.ofNat c.toNat :: escapedBytes rest := by
  rw [escapedBytes]
  rintro a b more rfl
  exact absurd rfl h

/-- An escaped character stands for its bytes. -/
theorem escapedBytes_percentChar (c : Char) (rest : List Char) :
    escapedBytes (percentChar c ++ rest) = String.utf8EncodeChar c ++ escapedBytes rest := by
  rw [percentChar]
  split
  · next h =>
    obtain ⟨-, hascii, hpercent⟩ := lt_of_isUnreserved h
    have hbytes : String.utf8EncodeChar c = [UInt8.ofNat c.toNat] :=
      if_pos (Nat.le_of_lt_succ hascii)
    rw [List.singleton_append, escapedBytes_cons hpercent, hbytes, List.singleton_append]
  · exact escapedBytes_flatMap_percentByte _ rest

theorem escapedBytes_percentEncode (s : String) :
    escapedBytes (percentEncode s) = s.toList.flatMap String.utf8EncodeChar := by
  rw [percentEncode]
  induction s.toList with
  | nil => rfl
  | cons c s ih => rw [List.flatMap_cons, escapedBytes_percentChar, ih, List.flatMap_cons]

theorem unescapeFrom_of_ascii {s : List Char} (h : ∀ c ∈ s, c.toNat < 128) (run : List Char) :
    unescapeFrom run s = Utf8.decodeTolerant (escapedBytes (run.reverse ++ s)) := by
  induction s generalizing run with
  | nil => rw [unescapeFrom, List.append_nil]
  | cons c s ih =>
    obtain ⟨hc, hs⟩ := List.forall_mem_cons.1 h
    rw [unescapeFrom, if_pos hc, ih hs, List.reverse_cons, List.append_assoc,
      List.singleton_append]

/-- An escaped text reads back. -/
theorem unescape_percentEncode (s : String) : unescape (percentEncode s) = s.toList := by
  rw [unescape, unescapeFrom_of_ascii fun c hc => lt_of_mem_percentEncode hc, List.reverse_nil,
    List.nil_append, escapedBytes_percentEncode, Utf8.decodeTolerant_encode]

/-- Escaping leaves no text empty that was not. -/
theorem percentEncode_ne_nil {s : String} (h : s ≠ "") : percentEncode s ≠ [] := by
  intro hnil
  have hback := unescape_percentEncode s
  rw [hnil, unescape_nil] at hback
  exact h (String.toList_eq_nil_iff.1 hback.symm)

/-- An escaped text reads back in a query, where it holds no plus sign that would be a space. -/
theorem unescapeQuery_percentEncode (s : String) : unescapeQuery (percentEncode s) = s.toList := by
  -- a plus sign in the text is escaped, so none is taken for a space
  have hplus : (percentEncode s).map (fun c => if c = '+' then ' ' else c) = percentEncode s := by
    refine (List.map_congr_left fun c hc => ?_).trans (List.map_id _)
    refine if_neg ?_
    rintro rfl
    exact (consists_percentEncode s).not_mem (by decide) (by decide) hc
  rw [unescapeQuery, hplus, unescape_percentEncode]

end Text
end BoundUpdate
