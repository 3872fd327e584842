import BoundUpdate.Proofs.Text.Cutting
import BoundUpdate.Template.Reader
import Mathlib.Data.List.Chain
import Mathlib.Data.List.Forall2

namespace BoundUpdate
namespace Template

/-!
# The grammar of templates

What a template text means is told here without its reader.  A placeholder is a
question mark with a longest run of digits, or with an index and members in
braces.  A scan of a text passes over characters that open nothing and over
whole placeholders.  The text is well formed when a placeholder stands wherever
the scan meets an opening.  Its segments decompose it: their sources make up the
text, and the literal ones are as long as they can be and open nothing.
-/

/-- Whether a character after a question mark opens a placeholder. -/
def opensAfter (c : Char) : Bool := c == '{' || Number.isDigit c

/-- A text that starts with a question mark and a character that opens a placeholder. -/
def Opens (s : List Char) : Prop := ∃ c rest, s = '?' :: c :: rest ∧ opensAfter c = true

/-- A run of digits that counts an argument, from one. -/
structure IsIndex (ds : List Char) : Prop where
  ne_nil : ds ≠ []
  digits : ∀ d ∈ ds, Number.isDigit d = true
  pos : 1 ≤ Number.readDigits ds

/-- The texts that spell a placeholder. -/
inductive Spells : List Char → Placeholder → Prop
  | bare {ds : List Char} (hindex : IsIndex ds) :
      Spells ('?' :: ds) { index := Number.readDigits ds }
  | braced {ds : List Char} {names : List (List Char)} (hindex : IsIndex ds)
      (hnames : ∀ name ∈ names, Text.isIdentifier name = true) :
      Spells ('?' :: '{' :: (Text.join '.' (ds :: names) ++ ['}']))
        { index := Number.readDigits ds, path := names.map String.ofList }

/-- Where a text ends and the next one starts no run of digits is cut: a digit may follow a closing
brace only. -/
def Delimited (slice next : List Char) : Prop :=
  slice.getLast? = some '}' ∨ ∀ d ∈ next.head?, Number.isDigit d = false

/-- A slice that spells a placeholder in front of the rest of a text. -/
structure Placed (slice : List Char) (p : Placeholder) (rest : List Char) : Prop where
  spells : Spells slice p
  delimited : Delimited slice rest

/-- A text that starts with a placeholder. -/
def StartsPlaceholder (s : List Char) : Prop :=
  ∃ slice p rest, s = slice ++ rest ∧ Placed slice p rest

/-- The scan of a text gets to a position, where a rest of the text is left: it passes over
characters that open nothing and over placeholders. -/
inductive Reaches (s : List Char) : Nat → List Char → Prop
  | start : Reaches s 0 s
  | literal {q : Nat} {c : Char} {rest : List Char} (hreach : Reaches s q (c :: rest))
      (hopens : ¬ Opens (c :: rest)) : Reaches s (q + 1) rest
  | placeholder {q : Nat} {slice rest : List Char} {p : Placeholder}
      (hreach : Reaches s q (slice ++ rest)) (hplaced : Placed slice p rest) :
      Reaches s (q + slice.length) rest

/-- Every opening that the scan meets starts a placeholder. -/
def WellFormed (s : List Char) : Prop := ∀ q r, Reaches s q r → Opens r → StartsPlaceholder r

/-- The scan meets an opening at a position that starts no placeholder.  The scan ends there, so
this is the leftmost one. -/
def MalformedAt (s : List Char) (q : Nat) : Prop :=
  ∃ r, Reaches s q r ∧ Opens r ∧ ¬ StartsPlaceholder r

/-- The digits of the index with which a placeholder at the start of a text begins, whether or not
the placeholder is well formed otherwise. -/
inductive IndexOf : List Char → List Char → Prop
  | bare {ds rest : List Char} (hdigits : ∀ d ∈ ds, Number.isDigit d = true)
      (hrest : ∀ d ∈ rest.head?, Number.isDigit d = false) : IndexOf ('?' :: (ds ++ rest)) ds
  | braced {ds rest : List Char} {parts : List (List Char)}
      (hdigits : ∀ d ∈ ds, Number.isDigit d = true)
      (hcontent : '}' ∉ Text.join '.' (ds :: parts)) :
      IndexOf ('?' :: '{' :: (Text.join '.' (ds :: parts) ++ '}' :: rest)) ds

/-- A text that starts with no placeholder index of more digits than are read. -/
def ShortIndex (s : List Char) : Prop := ∀ ds, IndexOf s ds → ds.length ≤ Number.digitLimit

/-- No placeholder index in a text has more digits than are read. -/
def ShortIndexes (s : List Char) : Prop := ∀ q r, Reaches s q r → ShortIndex r

/-- A text that opens nothing in itself. -/
def Inert (s : List Char) : Prop :=
  ∀ before c after, s = before ++ '?' :: c :: after → opensAfter c = false

/-- A slice is the source of a segment: a literal is its own source, a placeholder is spelled. -/
def IsSource : Segment → List Char → Prop
  | .literal text, slice => slice = text.toList
  | .placeholder p, slice => Spells slice p

/-- Segments decompose a text. -/
structure IsDecomposition (s : List Char) (segments : List Segment) : Prop where
  /-- The text is the sources of the segments, one after the other, and no index is cut. -/
  sources : ∃ slices, slices.flatten = s ∧ List.Forall₂ IsSource segments slices ∧
    slices.IsChain Delimited
  nonempty : Segment.literal "" ∉ segments
  /-- No two literals stand next to each other. -/
  separated : segments.IsChain fun a b => a.placeholder?.isSome ∨ b.placeholder?.isSome
  inert : ∀ text, Segment.literal text ∈ segments → Inert text.toList

/-! ## Openings and spellings -/

theorem not_opens_singleton (c : Char) : ¬ Opens [c] := by
  rintro ⟨d, rest, h, -⟩
  cases h

theorem opens_cons_cons_iff {c d : Char} {rest : List Char} :
    Opens (c :: d :: rest) ↔ c = '?' ∧ opensAfter d = true := by
  constructor
  · rintro ⟨e, tail, h, he⟩
    cases h
    exact ⟨rfl, he⟩
  · rintro ⟨rfl, hd⟩
    exact ⟨d, rest, rfl, hd⟩

theorem isDigit_ne_brace {d : Char} (h : Number.isDigit d = true) : d ≠ '{' ∧ d ≠ '}' := by
  constructor
  · rintro rfl
    exact absurd h (by decide)
  · rintro rfl
    exact absurd h (by decide)

theorem IsIndex.exists_cons {ds : List Char} (h : IsIndex ds) :
    ∃ d tail, ds = d :: tail ∧ Number.isDigit d = true := by
  obtain ⟨d, tail, rfl⟩ := List.exists_cons_of_ne_nil h.ne_nil
  exact ⟨d, tail, rfl, h.digits d List.mem_cons_self⟩

theorem IsIndex.not_mem {ds : List Char} (h : IsIndex ds) {c : Char}
    (hc : Number.isDigit c = false) : c ∉ ds := by
  intro hmem
  rw [h.digits c hmem] at hc
  cases hc

theorem Spells.head? {slice : List Char} {p : Placeholder} (h : Spells slice p) :
    slice.head? = some '?' := by
  cases h <;> rfl

theorem Spells.ne_nil {slice : List Char} {p : Placeholder} (h : Spells slice p) :
    slice ≠ [] := by
  rintro rfl
  cases h.head?

/-- The text between the braces of a spelled placeholder does not close them. -/
theorem not_mem_join_of_names {ds : List Char} {names : List (List Char)} (hindex : IsIndex ds)
    (hnames : ∀ name ∈ names, Text.isIdentifier name = true) :
    '}' ∉ Text.join '.' (ds :: names) := by
  intro hmem
  rcases Text.mem_join hmem with h | ⟨part, hpart, hc⟩
  · cases h
  · rcases List.mem_cons.1 hpart with rfl | hpart
    · exact hindex.not_mem (by decide) hc
    · exact Text.not_mem_of_isIdentifier (by decide +kernel) (by decide +kernel)
        (hnames part hpart) hc

/-- A run of digits that is delimited from what follows goes on as far as there are digits. -/
theorem IsIndex.head?_of_delimited {ds rest : List Char} (h : IsIndex ds)
    (hdelimited : Delimited ('?' :: ds) rest) : ∀ d ∈ rest.head?, Number.isDigit d = false := by
  rcases hdelimited with hlast | hrest
  · obtain ⟨d, tail, rfl, -⟩ := h.exists_cons
    rw [List.getLast?_cons_cons] at hlast
    exact absurd (List.mem_of_getLast? hlast) (h.not_mem (by decide))
  · exact hrest

theorem delimited_of_head? {slice rest : List Char}
    (h : ∀ d ∈ rest.head?, Number.isDigit d = false) : Delimited slice rest := .inr h

theorem delimited_brace (before rest : List Char) : Delimited (before ++ ['}']) rest :=
  .inl List.getLast?_concat

/-! ## The scan -/

/-- What the scan leaves at a position is the text without what comes before it. -/
theorem Reaches.eq_drop {s r : List Char} {q : Nat} (h : Reaches s q r) : r = s.drop q := by
  induction h with
  | start => rfl
  | literal _ _ ih => rw [← List.drop_drop, ← ih, List.drop_succ_cons, List.drop_zero]
  | placeholder _ _ ih => rw [← List.drop_drop, ← ih, List.drop_left]

theorem Reaches.trans {s r t : List Char} {q k : Nat} (h : Reaches s q r) (h' : Reaches r k t) :
    Reaches s (q + k) t := by
  induction h' with
  | start => exact h
  | literal _ hopens ih => exact .literal ih hopens
  | placeholder _ hplaced ih =>
    rw [← Nat.add_assoc]
    exact .placeholder ih hplaced

/-- The first step of a scan over a character that opens nothing. -/
theorem reaches_tail {c : Char} {rest : List Char} (h : ¬ Opens (c :: rest)) :
    Reaches (c :: rest) 1 rest := by
  simpa using Reaches.literal .start h

/-- The first step of a scan over a placeholder. -/
theorem reaches_behind {slice rest : List Char} {p : Placeholder} (h : Placed slice p rest) :
    Reaches (slice ++ rest) slice.length rest := by
  simpa using Reaches.placeholder .start h

theorem WellFormed.of_reaches {s r : List Char} {q : Nat} (h : WellFormed s)
    (hreach : Reaches s q r) : WellFormed r :=
  fun _ t hreach' hopens => h _ t (hreach.trans hreach') hopens

theorem ShortIndexes.of_reaches {s r : List Char} {q : Nat} (h : ShortIndexes s)
    (hreach : Reaches s q r) : ShortIndexes r :=
  fun _ t hreach' => h _ t (hreach.trans hreach')

theorem ShortIndexes.start {s : List Char} (h : ShortIndexes s) : ShortIndex s := h 0 s .start

/-- A text that is not well formed has a leftmost malformed placeholder. -/
theorem exists_malformedAt {s : List Char} (h : ¬ WellFormed s) : ∃ q, MalformedAt s q := by
  unfold WellFormed at h
  push Not at h
  obtain ⟨q, r, hreach, hopens, hstart⟩ := h
  exact ⟨q, r, hreach, hopens, hstart⟩

theorem IndexOf.length_le {s ds : List Char} (h : IndexOf s ds) : ds.length ≤ s.length := by
  cases h with
  | bare _ _ =>
    rw [List.length_cons, List.length_append]
    omega
  | @braced _ rest parts _ _ =>
    have hjoin : ds.length ≤ (Text.join '.' (ds :: parts)).length := by
      cases parts with
      | nil => exact le_refl ds.length
      | cons part parts =>
        rw [Text.join, List.length_append]
        · omega
        · exact List.cons_ne_nil part parts
    rw [List.length_cons, List.length_cons, List.length_append]
    omega

/-- No index is longer than its text. -/
theorem shortIndexes_of_length_le {s : List Char} (h : s.length ≤ Number.digitLimit) :
    ShortIndexes s := by
  intro q r hreach ds hindex
  have hle := hindex.length_le
  rw [hreach.eq_drop, List.length_drop] at hle
  omega

end Template
end BoundUpdate
