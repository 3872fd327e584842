import BoundUpdate.Text.Identifier
import BoundUpdate.Text.Split
import Mathlib.Data.List.TakeWhile

namespace BoundUpdate
namespace Text

/-!
# Runs and parts of texts

A run of characters of a class ends where the class ends, and parts that are
joined by a separator come apart again at it.  Names hold no separators.
-/

/-- A run that lies inside a class and is followed by nothing of it is the longest run. -/
theorem takeWhile_run {p : Char → Bool} {run rest : List Char} (hrun : ∀ c ∈ run, p c = true)
    (hrest : ∀ c ∈ rest.head?, p c = false) : (run ++ rest).takeWhile p = run := by
  rw [List.takeWhile_append_of_pos hrun]
  cases rest with
  | nil => simp
  | cons c rest => simp [hrest c rfl]

/-- What is left behind the longest run of a class. -/
theorem dropWhile_run {p : Char → Bool} {run rest : List Char} (hrun : ∀ c ∈ run, p c = true)
    (hrest : ∀ c ∈ rest.head?, p c = false) : (run ++ rest).dropWhile p = rest := by
  rw [List.dropWhile_append_of_pos hrun]
  cases rest with
  | nil => rfl
  | cons c rest => simp [hrest c rfl]

/-- A text is the longest run of a class at its start and a rest that does not go on with it. -/
theorem exists_run (p : Char → Bool) (s : List Char) :
    ∃ run rest, s = run ++ rest ∧ (∀ c ∈ run, p c = true) ∧ ∀ c ∈ rest.head?, p c = false := by
  refine ⟨s.takeWhile p, s.dropWhile p, List.takeWhile_append_dropWhile.symm, ?_, ?_⟩
  · intro c hc
    exact List.mem_takeWhile_imp hc
  · intro c hc
    have hstop := List.head?_dropWhile_not p s
    rw [Option.mem_def.1 hc] at hstop
    simpa using hstop

theorem splitOn_of_not_mem {separator : Char} {part : List Char} (h : separator ∉ part) :
    splitOn separator part = [part] := by
  induction part with
  | nil => rfl
  | cons c part ih =>
    obtain ⟨hc, hpart⟩ := List.ne_and_not_mem_of_not_mem_cons h
    simp [splitOn, Ne.symm hc, ih hpart]

theorem splitOn_append_cons {separator : Char} {part : List Char} (h : separator ∉ part)
    (rest : List Char) :
    splitOn separator (part ++ separator :: rest) = part :: splitOn separator rest := by
  induction part with
  | nil => simp [splitOn]
  | cons c part ih =>
    obtain ⟨hc, hpart⟩ := List.ne_and_not_mem_of_not_mem_cons h
    simp [splitOn, Ne.symm hc, ih hpart]

/-- Parts without the separator come apart as they were joined. -/
theorem splitOn_join {separator : Char} (part : List Char) (parts : List (List Char))
    (h : ∀ q ∈ part :: parts, separator ∉ q) :
    splitOn separator (join separator (part :: parts)) = part :: parts := by
  induction parts generalizing part with
  | nil => exact splitOn_of_not_mem (h part List.mem_cons_self)
  | cons next parts ih =>
    have hpart : separator ∉ part := h part List.mem_cons_self
    have hrest := ih next fun q hq => h q (List.mem_cons_of_mem part hq)
    rw [join, splitOn_append_cons hpart, hrest]
    simp

/-- The first part comes apart from whatever follows it. -/
theorem exists_splitOn_join {separator : Char} {part : List Char} (h : separator ∉ part)
    (parts : List (List Char)) :
    ∃ others, splitOn separator (join separator (part :: parts)) = part :: others := by
  cases parts with
  | nil => exact ⟨[], splitOn_of_not_mem h⟩
  | cons next parts =>
    refine ⟨splitOn separator (join separator (next :: parts)), ?_⟩
    rw [join, splitOn_append_cons h]
    simp

theorem mem_join {separator c : Char} {parts : List (List Char)} (h : c ∈ join separator parts) :
    c = separator ∨ ∃ part ∈ parts, c ∈ part := by
  induction parts with
  | nil => simp [join] at h
  | cons part parts ih =>
    cases parts with
    | nil => exact .inr ⟨part, List.mem_cons_self, h⟩
    | cons next parts =>
      rw [join] at h
      · rcases List.mem_append.1 h with hpart | hrest
        · exact .inr ⟨part, List.mem_cons_self, hpart⟩
        · rcases List.mem_cons.1 hrest with rfl | hrest
          · exact .inl rfl
          · rcases ih hrest with heq | ⟨other, hother, hc⟩
            · exact .inl heq
            · exact .inr ⟨other, List.mem_cons_of_mem part hother, hc⟩
      · simp

theorem cut?_eq_none {separator : Char} {s : List Char} (h : cut? separator s = none) :
    separator ∉ s := by
  induction s with
  | nil => exact List.not_mem_nil
  | cons c s ih =>
    rw [cut?] at h
    split at h
    · cases h
    next hc =>
      have hrest : separator ∉ s := ih (by simpa using h)
      exact List.not_mem_cons_of_ne_of_not_mem (Ne.symm hc) hrest

theorem cut?_eq_some {separator : Char} {s first rest : List Char}
    (h : cut? separator s = some (first, rest)) :
    s = first ++ separator :: rest ∧ separator ∉ first := by
  induction s generalizing first with
  | nil => cases h
  | cons c s ih =>
    rw [cut?] at h
    split at h
    next hc =>
      cases h
      exact ⟨by rw [hc, List.nil_append], List.not_mem_nil⟩
    next hc =>
      obtain ⟨⟨first', rest'⟩, hcut, heq⟩ := Option.map_eq_some_iff.1 h
      cases heq
      obtain ⟨rfl, hfirst⟩ := ih hcut
      exact ⟨rfl, List.not_mem_cons_of_ne_of_not_mem (Ne.symm hc) hfirst⟩

/-- A text comes apart at the first separator, whatever stands behind it. -/
theorem cut?_append_cons {separator : Char} {first : List Char} (h : separator ∉ first)
    (rest : List Char) : cut? separator (first ++ separator :: rest) = some (first, rest) := by
  induction first with
  | nil => rw [List.nil_append, cut?, if_pos rfl]
  | cons c first ih =>
    obtain ⟨hc, hfirst⟩ := List.ne_and_not_mem_of_not_mem_cons h
    rw [List.cons_append, cut?, if_neg (Ne.symm hc), ih hfirst]
    rfl

theorem cut?_of_not_mem {separator : Char} {s : List Char} (h : separator ∉ s) :
    cut? separator s = none := by
  cases hcut : cut? separator s with
  | none => rfl
  | some found =>
    obtain ⟨rfl, -⟩ := cut?_eq_some hcut
    exact absurd List.mem_append_cons_self h

/-- A text comes apart at the last separator, whatever stands in front of it. -/
theorem cutLast?_append_cons {separator : Char} {last : List Char} (h : separator ∉ last)
    (first : List Char) :
    cutLast? separator (first ++ separator :: last) = some (first, last) := by
  have hreverse : (first ++ separator :: last).reverse =
      last.reverse ++ separator :: first.reverse := by simp
  rw [cutLast?, hreverse, cut?_append_cons (by simpa using h)]
  simp

theorem before_of_not_mem {separator : Char} {s : List Char} (h : separator ∉ s) :
    before separator s = s := by
  rw [before, List.takeWhile_eq_self_iff]
  intro c hc
  exact bne_iff_ne.2 fun heq => h (heq ▸ hc)

theorem before_append_cons {separator : Char} {first : List Char} (h : separator ∉ first)
    (rest : List Char) : before separator (first ++ separator :: rest) = first := by
  refine takeWhile_run (fun c hc => bne_iff_ne.2 fun heq => h (heq ▸ hc)) ?_
  simp

/-- A part occurs between whatever stands around it. -/
theorem occursIn_append (part front rest : List Char) :
    occursIn part (front ++ (part ++ rest)) = true := by
  have hprefix : part.isPrefixOf (part ++ rest) = true := by
    rw [List.isPrefixOf_iff_prefix]
    exact List.prefix_append part rest
  induction front with
  | nil =>
    cases hwhole : part ++ rest with
    | nil =>
      obtain ⟨rfl, -⟩ := List.append_eq_nil_iff.1 hwhole
      rfl
    | cons c more =>
      rw [List.nil_append, occursIn, ← hwhole, hprefix, Bool.true_or]
  | cons c front ih => rw [List.cons_append, occursIn, ih, Bool.or_true]

theorem cutLast?_eq_none {separator : Char} {s : List Char} (h : cutLast? separator s = none) :
    separator ∉ s := by
  have hcut : cut? separator s.reverse = none := by simpa [cutLast?] using h
  simpa using cut?_eq_none hcut

theorem cutLast?_eq_some {separator : Char} {s first last : List Char}
    (h : cutLast? separator s = some (first, last)) :
    s = first ++ separator :: last ∧ separator ∉ last := by
  obtain ⟨⟨after, before⟩, hcut, heq⟩ := Option.map_eq_some_iff.1 h
  cases heq
  obtain ⟨hs, hafter⟩ := cut?_eq_some hcut
  refine ⟨?_, by simpa using hafter⟩
  exact (List.reverse_eq_iff.1 hs).trans (by simp)

/-- A character that neither starts nor continues names occurs in none. -/
theorem not_mem_of_isIdentifier {c : Char} (hstart : isIdentifierStart c = false)
    (hcontinue : isIdentifierContinue c = false) {name : List Char}
    (h : isIdentifier name = true) : c ∉ name := by
  cases name with
  | nil => exact List.not_mem_nil
  | cons first rest =>
    rw [isIdentifier_cons, Bool.and_eq_true, List.all_eq_true] at h
    intro hmem
    rcases List.mem_cons.1 hmem with rfl | hrest
    · simp [hstart] at h
    · simpa [hcontinue] using h.2 c hrest

end Text
end BoundUpdate
