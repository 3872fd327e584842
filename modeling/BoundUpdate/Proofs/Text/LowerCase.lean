import BoundUpdate.Text.Blank
import BoundUpdate.Text.LetterCase
import Mathlib.Data.List.TakeWhile

namespace BoundUpdate
namespace Text

/-!
# Texts in lower case

A text of ASCII characters is brought to lower case character by character, and
once is enough.  Blanks stay as they are, so a text has no blanks if its lower
case form has none.
-/

/-! ## ASCII texts -/

/-- What holds of all ASCII characters is found by going through them. -/
theorem forall_ascii {P : Char → Prop} (h : ∀ n < 128, P (Char.ofNat n)) {c : Char}
    (hc : c.toNat < 128) : P c := by
  have hcode := h c.toNat hc
  rwa [Char.ofNat_toNat] at hcode

theorem lowerChar_of_ascii {c : Char} (h : c.toNat < 128) : lowerChar c = [c.toLower] := by
  have hall : ∀ n < 128, lowerChar (Char.ofNat n) = [(Char.ofNat n).toLower] := by decide +kernel
  exact forall_ascii (P := fun c => lowerChar c = [c.toLower]) hall h

theorem toNat_toLower_of_ascii {c : Char} (h : c.toNat < 128) : c.toLower.toNat < 128 := by
  have hall : ∀ n < 128, (Char.ofNat n).toLower.toNat < 128 := by decide +kernel
  exact forall_ascii (P := fun c => c.toLower.toNat < 128) hall h

theorem toLower_toLower_of_ascii {c : Char} (h : c.toNat < 128) :
    c.toLower.toLower = c.toLower := by
  have hall : ∀ n < 128, (Char.ofNat n).toLower.toLower = (Char.ofNat n).toLower := by
    decide +kernel
  exact forall_ascii (P := fun c => c.toLower.toLower = c.toLower) hall h

theorem lowerFrom_of_ascii {s : List Char} (h : ∀ c ∈ s, c.toNat < 128) (before : List Char) :
    lowerFrom before s = s.map Char.toLower := by
  induction s generalizing before with
  | nil => rfl
  | cons c s ih =>
    obtain ⟨hc, hs⟩ := List.forall_mem_cons.1 h
    have hsigma : (c == 'Σ') = false := by
      refine beq_eq_false_iff_ne.2 ?_
      rintro rfl
      exact absurd hc (by decide)
    simp [lowerFrom, hsigma, lowerChar_of_ascii hc, ih hs]

theorem lower_of_ascii {s : List Char} (h : ∀ c ∈ s, c.toNat < 128) :
    lower s = s.map Char.toLower := lowerFrom_of_ascii h []

theorem lower_map_toLower {s : List Char} (h : ∀ c ∈ s, c.toNat < 128) :
    lower (s.map Char.toLower) = s.map Char.toLower := by
  rw [lower_of_ascii (List.forall_mem_map.2 fun c hc => toNat_toLower_of_ascii (h c hc)),
    List.map_map]
  exact List.map_congr_left fun c hc => toLower_toLower_of_ascii (h c hc)

/-! ## Blanks -/

theorem exists_range_of_covers {ranges : CodeRanges} {code : Nat}
    (h : ranges.covers code = true) : ∃ range ∈ ranges, range.1 ≤ code ∧ code ≤ range.2 := by
  induction ranges with
  | nil => cases h
  | cons range ranges ih =>
    rw [CodeRanges.covers] at h
    split at h
    · cases h
    · next hfirst =>
      split at h
      · next hlast => exact ⟨range, by simp, Nat.le_of_not_lt hfirst, hlast⟩
      · obtain ⟨found, hmem, hrange⟩ := ih h
        exact ⟨found, List.mem_cons_of_mem _ hmem, hrange⟩

theorem lowerChar_of_isBlank {c : Char} (h : isBlank c = true) : lowerChar c = [c] := by
  have hall : ∀ range ∈ blankRanges, ∀ n < range.2 + 1 - range.1,
      lowerChar (Char.ofNat (range.1 + n)) = [Char.ofNat (range.1 + n)] := by
    decide +kernel
  obtain ⟨range, hmem, hfirst, hlast⟩ := exists_range_of_covers h
  have hcode := hall range hmem (c.toNat - range.1) (by omega)
  rwa [Nat.add_sub_cancel' hfirst, Char.ofNat_toNat] at hcode

theorem mem_lowerFrom_of_isBlank {c : Char} (h : isBlank c = true) {s : List Char} (hc : c ∈ s)
    (before : List Char) : c ∈ lowerFrom before s := by
  induction s generalizing before with
  | nil => cases hc
  | cons first rest ih =>
    rw [lowerFrom, List.mem_append]
    rcases List.mem_cons.1 hc with rfl | hrest
    · left
      have hsigma : (c == 'Σ') = false := by
        refine beq_eq_false_iff_ne.2 ?_
        rintro rfl
        exact absurd h (by decide)
      simp [hsigma, lowerChar_of_isBlank h]
    · exact .inr (ih hrest _)

/-- A text whose lower case form has no blanks has none either. -/
theorem not_isBlank_of_lower {s : List Char} (h : ∀ c ∈ lower s, isBlank c = false) :
    ∀ c ∈ s, isBlank c = false := by
  intro c hc
  by_contra hblank
  rw [Bool.not_eq_false] at hblank
  exact absurd (h c (mem_lowerFrom_of_isBlank hblank hc [])) (by simp [hblank])

theorem dropWhile_of_not_isBlank {s : List Char} (h : ∀ c ∈ s, isBlank c = false) :
    s.dropWhile isBlank = s :=
  List.dropWhile_eq_self_iff.2 fun hlength => by simp [h _ (List.getElem_mem hlength)]

theorem trim_of_not_isBlank {s : List Char} (h : ∀ c ∈ s, isBlank c = false) : trim s = s := by
  have hreverse : ∀ c ∈ s.reverse, isBlank c = false := fun c hc => h c (List.mem_reverse.1 hc)
  rw [trim, trimStart, dropWhile_of_not_isBlank h, trimEnd, dropWhile_of_not_isBlank hreverse,
    List.reverse_reverse]

end Text
end BoundUpdate
