import BoundUpdate.Number.Digits
import Mathlib.Algebra.Group.Nat.Defs
import Mathlib.Data.List.Induction

namespace BoundUpdate
namespace Number

/-!
# Decimal notation reads back

The notation of a number is a run of ASCII digits that spells the number, so
different numbers have different notations.  No run of digits that spells the
number is shorter, and one that goes on behind the notation spells more.
-/

theorem isDigit_digitChar {d : Nat} (h : d < 10) : isDigit (digitChar d) = true := by
  have hall : ∀ d < 10, isDigit (digitChar d) = true := by decide
  exact hall d h

theorem digitValue_digitChar {d : Nat} (h : d < 10) : digitValue (digitChar d) = d := by
  have hall : ∀ d < 10, digitValue (digitChar d) = d := by decide
  exact hall d h

theorem isDigit_of_mem_natChars {n : Nat} {c : Char} (h : c ∈ natChars n) :
    isDigit c = true := by
  obtain ⟨d, hd, rfl⟩ := List.mem_map.1 h
  exact isDigit_digitChar (digits_lt n d hd)

theorem natChars_ne_nil (n : Nat) : natChars n ≠ [] := by
  intro h
  exact digits_ne_nil n (List.map_eq_nil_iff.1 h)

/-- The notation of a number spells it. -/
theorem readDigits_natChars (n : Nat) : readDigits (natChars n) = n := by
  have hvalues : (natChars n).map digitValue = digits n := by
    rw [natChars, List.map_map]
    refine (List.map_congr_left fun d hd => ?_).trans (List.map_id (digits n))
    exact digitValue_digitChar (digits_lt n d hd)
  rw [readDigits, hvalues, ofDigits_digits]

theorem natChars_injective : Function.Injective natChars := by
  intro m n h
  rw [← readDigits_natChars m, h, readDigits_natChars]

/-! ## Other runs of digits -/

theorem digitValue_lt {c : Char} (h : isDigit c = true) : digitValue c < 10 := by
  have hbounds : 48 ≤ c.toNat ∧ c.toNat ≤ 57 := by simpa [isDigit] using h
  rw [digitValue]
  omega

theorem readDigits_concat (ds : List Char) (d : Char) :
    readDigits (ds ++ [d]) = 10 * readDigits ds + digitValue d := by
  rw [readDigits, List.map_append, List.map_singleton, ofDigits_append, readDigits]

theorem readDigits_lt {ds : List Char} (h : ∀ d ∈ ds, isDigit d = true) :
    readDigits ds < 10 ^ ds.length := by
  induction ds using List.reverseRecOn with
  | nil => decide
  | append_singleton ds d ih =>
    have hrest := ih fun c hc => h c (List.mem_append_left _ hc)
    have hlast := digitValue_lt (h d List.mem_concat_self)
    rw [readDigits_concat, List.length_append, List.length_singleton, Nat.pow_succ]
    omega

theorem length_digits_le {n k : Nat} (hk : k ≠ 0) (h : n < 10 ^ k) : (digits n).length ≤ k := by
  induction k generalizing n with
  | zero => exact absurd rfl hk
  | succ k ih =>
    rw [digits]
    split
    · exact Nat.le_add_left 1 k
    next hlarge =>
      rw [Nat.pow_succ] at h
      have hne : k ≠ 0 := by
        rintro rfl
        omega
      have hrest := ih hne (n := n / 10) (by omega)
      rw [List.length_append, List.length_singleton]
      omega

/-- The notation of a number is the shortest run of digits that spells it. -/
theorem length_natChars_le {ds : List Char} (hne : ds ≠ []) (h : ∀ d ∈ ds, isDigit d = true) :
    (natChars (readDigits ds)).length ≤ ds.length := by
  rw [natChars, List.length_map]
  exact length_digits_le (fun hzero => hne (List.length_eq_zero_iff.1 hzero)) (readDigits_lt h)

/-- Digits behind a run that does not spell zero make it spell more. -/
theorem readDigits_lt_append {ds more : List Char} (hpos : 1 ≤ readDigits ds) (hmore : more ≠ []) :
    readDigits ds < readDigits (ds ++ more) := by
  induction more using List.reverseRecOn with
  | nil => exact absurd rfl hmore
  | append_singleton more d ih =>
    rw [← List.append_assoc, readDigits_concat]
    by_cases hnil : more = []
    · rw [hnil, List.append_nil]
      omega
    · have hrest := ih hnil
      omega

end Number
end BoundUpdate
