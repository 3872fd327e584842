namespace BoundUpdate
namespace Number

/-!
# Decimal digits

Numbers are written in decimal notation without leading zeros and read back
from any non-empty run of digits, leading zeros allowed.  The main statement is
`ofDigits_digits`: what is written reads back as the same number.
-/

/-- The character of a digit below ten. -/
def digitChar (d : Nat) : Char := Char.ofNat (48 + d)

/-- Whether a character is one of the ten ASCII digits. -/
def isDigit (c : Char) : Bool := 48 ≤ c.toNat && c.toNat ≤ 57

/-- The value of an ASCII digit. -/
def digitValue (c : Char) : Nat := c.toNat - 48

/-- The decimal digits of a number, most significant first. -/
def digits (n : Nat) : List Nat :=
  if n < 10 then [n] else digits (n / 10) ++ [n % 10]

/-- The number that a list of digits spells. -/
def ofDigits (ds : List Nat) : Nat := ds.foldl (fun n d => 10 * n + d) 0

/-- The decimal notation of a natural number. -/
def natChars (n : Nat) : List Char := (digits n).map digitChar

/-- The decimal notation of a natural number. -/
def natText (n : Nat) : String := String.ofList (natChars n)

/-- The decimal notation of an integer. -/
def intText (n : Int) : String :=
  if n < 0 then String.ofList ('-' :: natChars n.natAbs) else natText n.natAbs

/-- The number that a run of ASCII digits spells. -/
def readDigits (cs : List Char) : Nat := ofDigits (cs.map digitValue)

theorem ofDigits_append (ds : List Nat) (d : Nat) :
    ofDigits (ds ++ [d]) = 10 * ofDigits ds + d := by
  simp [ofDigits]

theorem ofDigits_digits (n : Nat) : ofDigits (digits n) = n := by
  induction n using Nat.strongRecOn with
  | ind n ih =>
    rw [digits]
    split
    · simp [ofDigits]
    · rw [ofDigits_append, ih (n / 10) (by omega)]
      omega

theorem digits_lt (n : Nat) : ∀ d ∈ digits n, d < 10 := by
  induction n using Nat.strongRecOn with
  | ind n ih =>
    rw [digits]
    split
    · simpa
    · intro d hd
      rcases List.mem_append.1 hd with h | h
      · exact ih (n / 10) (by omega) d h
      · have : d = n % 10 := by simpa using h
        omega

theorem digits_ne_nil (n : Nat) : digits n ≠ [] := by
  rw [digits]
  split <;> simp

end Number
end BoundUpdate
