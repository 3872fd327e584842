namespace BoundUpdate
namespace Text

/-!
# Compatibility forms

Some characters are other forms of ASCII letters and digits: wide ones,
mathematical ones, ligatures.  Names are compared in the plain form.
-/

/-- Runs of characters that are forms of adjacent ASCII characters: the first code point, the ASCII
code it stands for, and the length of the run. -/
def plainRuns : List (Nat × Nat × Nat) := [
  (0xAA, 97, 1), (0xBA, 111, 1), (0x17F, 115, 1), (0x2B0, 104, 1), (0x2B2, 106, 1),
  (0x2B3, 114, 1), (0x2B7, 119, 1), (0x2B8, 121, 1), (0x2E1, 108, 1), (0x2E2, 115, 1),
  (0x2E3, 120, 1), (0x1D2C, 65, 1), (0x1D2E, 66, 1), (0x1D30, 68, 2), (0x1D33, 71, 8),
  (0x1D3C, 79, 1), (0x1D3E, 80, 1), (0x1D3F, 82, 1), (0x1D40, 84, 2), (0x1D42, 87, 1),
  (0x1D43, 97, 1), (0x1D47, 98, 1), (0x1D48, 100, 2), (0x1D4D, 103, 1), (0x1D4F, 107, 1),
  (0x1D50, 109, 1), (0x1D52, 111, 1), (0x1D56, 112, 1), (0x1D57, 116, 2), (0x1D5B, 118, 1),
  (0x1D62, 105, 1), (0x1D63, 114, 1), (0x1D64, 117, 2), (0x1D9C, 99, 1), (0x1DA0, 102, 1),
  (0x1DBB, 122, 1), (0x2071, 105, 1), (0x207F, 110, 1), (0x2090, 97, 1), (0x2091, 101, 1),
  (0x2092, 111, 1), (0x2093, 120, 1), (0x2095, 104, 1), (0x2096, 107, 4), (0x209A, 112, 1),
  (0x209B, 115, 2), (0x2102, 67, 1), (0x210A, 103, 1), (0x210B, 72, 1), (0x210C, 72, 1),
  (0x210D, 72, 1), (0x210E, 104, 1), (0x2110, 73, 1), (0x2111, 73, 1), (0x2112, 76, 1),
  (0x2113, 108, 1), (0x2115, 78, 1), (0x2119, 80, 3), (0x211C, 82, 1), (0x211D, 82, 1),
  (0x2124, 90, 1), (0x2128, 90, 1), (0x212A, 75, 1), (0x212C, 66, 2), (0x212F, 101, 1),
  (0x2130, 69, 2), (0x2133, 77, 1), (0x2134, 111, 1), (0x2139, 105, 1), (0x2145, 68, 1),
  (0x2146, 100, 2), (0x2148, 105, 2), (0x2160, 73, 1), (0x2164, 86, 1), (0x2169, 88, 1),
  (0x216C, 76, 1), (0x216D, 67, 2), (0x216F, 77, 1), (0x2170, 105, 1), (0x2174, 118, 1),
  (0x2179, 120, 1), (0x217C, 108, 1), (0x217D, 99, 2), (0x217F, 109, 1), (0x2C7C, 106, 1),
  (0x2C7D, 86, 1), (0xA7F2, 67, 1), (0xA7F3, 70, 1), (0xA7F4, 81, 1), (0xFE33, 95, 1),
  (0xFE34, 95, 1), (0xFE4D, 95, 1), (0xFE4E, 95, 1), (0xFE4F, 95, 1), (0xFF10, 48, 10),
  (0xFF21, 65, 26), (0xFF3F, 95, 1), (0xFF41, 97, 26), (0x107A5, 113, 1), (0x1D400, 65, 26),
  (0x1D41A, 97, 26), (0x1D434, 65, 26), (0x1D44E, 97, 7), (0x1D456, 105, 18), (0x1D468, 65, 26),
  (0x1D482, 97, 26), (0x1D49C, 65, 1), (0x1D49E, 67, 2), (0x1D4A2, 71, 1), (0x1D4A5, 74, 2),
  (0x1D4A9, 78, 4), (0x1D4AE, 83, 8), (0x1D4B6, 97, 4), (0x1D4BB, 102, 1), (0x1D4BD, 104, 7),
  (0x1D4C5, 112, 11), (0x1D4D0, 65, 26), (0x1D4EA, 97, 26), (0x1D504, 65, 2), (0x1D507, 68, 4),
  (0x1D50D, 74, 8), (0x1D516, 83, 7), (0x1D51E, 97, 26), (0x1D538, 65, 2), (0x1D53B, 68, 4),
  (0x1D540, 73, 5), (0x1D546, 79, 1), (0x1D54A, 83, 7), (0x1D552, 97, 26), (0x1D56C, 65, 26),
  (0x1D586, 97, 26), (0x1D5A0, 65, 26), (0x1D5BA, 97, 26), (0x1D5D4, 65, 26), (0x1D5EE, 97, 26),
  (0x1D608, 65, 26), (0x1D622, 97, 26), (0x1D63C, 65, 26), (0x1D656, 97, 26), (0x1D670, 65, 26),
  (0x1D68A, 97, 26), (0x1D7CE, 48, 10), (0x1D7D8, 48, 10), (0x1D7E2, 48, 10), (0x1D7EC, 48, 10),
  (0x1D7F6, 48, 10), (0x1FBF0, 48, 10)]

/-- Characters that are forms of several ASCII characters. -/
def plainLigatures : List (Nat × String) := [
  (0x132, "IJ"), (0x133, "ij"), (0x1C7, "LJ"), (0x1C8, "Lj"), (0x1C9, "lj"), (0x1CA, "NJ"),
  (0x1CB, "Nj"), (0x1CC, "nj"), (0x1F1, "DZ"), (0x1F2, "Dz"), (0x1F3, "dz"), (0x2161, "II"),
  (0x2162, "III"), (0x2163, "IV"), (0x2165, "VI"), (0x2166, "VII"), (0x2167, "VIII"),
  (0x2168, "IX"), (0x216A, "XI"), (0x216B, "XII"), (0x2171, "ii"), (0x2172, "iii"),
  (0x2173, "iv"), (0x2175, "vi"), (0x2176, "vii"), (0x2177, "viii"), (0x2178, "ix"),
  (0x217A, "xi"), (0x217B, "xii"), (0xFB00, "ff"), (0xFB01, "fi"), (0xFB02, "fl"),
  (0xFB03, "ffi"), (0xFB04, "ffl"), (0xFB05, "st"), (0xFB06, "st")]

/-- The ASCII characters that a character is a form of; any other character is its own form. -/
def plainChars (c : Char) : List Char :=
  let code := c.toNat
  if code < 128 then [c]
  else
    match plainRuns.find? fun (first, _, count) => first ≤ code && code < first + count with
    | some (first, plain, _) => [Char.ofNat (plain + (code - first))]
    | none =>
      match plainLigatures.lookup code with
      | some s => s.toList
      | none => [c]

/-- A name in the form in which names are compared. -/
def plainForm (s : List Char) : String := String.ofList (s.flatMap plainChars)

end Text
end BoundUpdate
