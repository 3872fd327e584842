import BoundUpdate.Proofs.Template.Grammar

namespace BoundUpdate
namespace Template

/-!
# Decompositions, segment by segment

A decomposition is told by its first segment and a decomposition of the text
behind it.  A literal in front is not empty, opens nothing and is followed by a
placeholder if by anything; a placeholder in front is placed before the rest.
-/

theorem IsSource.ne_nil {segment : Segment} {slice : List Char} (h : IsSource segment slice)
    (hne : segment ≠ .literal "") : slice ≠ [] := by
  cases segment with
  | literal text =>
    rintro rfl
    have htext : text = "" := String.toList_inj.1 h.symm
    exact hne (by rw [htext])
  | placeholder p => exact Spells.ne_nil h

/-- What the sources of segments start with is what the first of them starts with. -/
theorem head?_flatten_sources {segments : List Segment} {slices : List (List Char)}
    (h : List.Forall₂ IsSource segments slices) (hne : Segment.literal "" ∉ segments) :
    slices.flatten.head? = (slices.head?.getD []).head? := by
  cases h with
  | nil => rfl
  | @cons segment slice segments slices hsource _ =>
    have hslice : slice ≠ [] := hsource.ne_nil fun heq => hne (by simp [heq])
    rw [List.flatten_cons, List.head?_append_of_ne_nil _ hslice]
    rfl

/-- In a chain of sources, a slice is delimited from the next one as it is from all that follows. -/
theorem isChain_delimited_cons_iff {segments : List Segment} {slice : List Char}
    {slices : List (List Char)} (h : List.Forall₂ IsSource segments slices)
    (hne : Segment.literal "" ∉ segments) :
    (slice :: slices).IsChain Delimited ↔
      Delimited slice slices.flatten ∧ slices.IsChain Delimited := by
  have hhead := head?_flatten_sources h hne
  rw [List.isChain_cons, and_congr_left_iff]
  intro _
  unfold Delimited
  rw [hhead]
  cases slices with
  | nil => simp
  | cons next slices => simp

theorem isDecomposition_nil_iff {s : List Char} : IsDecomposition s [] ↔ s = [] := by
  constructor
  · rintro ⟨⟨slices, rfl, hsources, -⟩, -, -, -⟩
    cases hsources
    rfl
  · rintro rfl
    exact ⟨⟨[], rfl, .nil, .nil⟩, List.not_mem_nil, .nil, by simp⟩

/-- What a decomposition that starts with no literal decomposes is empty or starts a placeholder. -/
theorem IsDecomposition.head?_eq {s : List Char} {segments : List Segment}
    (h : IsDecomposition s segments)
    (hliteral : ∀ text, segments.head? ≠ some (.literal text)) :
    ∀ c ∈ s.head?, c = '?' := by
  obtain ⟨⟨slices, rfl, hsources, -⟩, hne, -, -⟩ := h
  rw [head?_flatten_sources hsources hne]
  cases hsources with
  | nil => simp
  | @cons segment slice segments slices hsource _ =>
    cases segment with
    | literal text => exact absurd rfl (hliteral text)
    | placeholder p =>
      intro c hc
      simpa [Spells.head? hsource, eq_comm] using hc

theorem isDecomposition_literal_iff {s : List Char} {text : String} {segments : List Segment} :
    IsDecomposition s (.literal text :: segments) ↔
      text ≠ "" ∧ Inert text.toList ∧ (∀ other, segments.head? ≠ some (.literal other)) ∧
        ∃ rest, s = text.toList ++ rest ∧ IsDecomposition rest segments := by
  constructor
  · rintro ⟨⟨slices, rfl, hsources, hchain⟩, hne, hseparated, hinert⟩
    obtain ⟨slice, others, hsource, hothers, rfl⟩ := List.forall₂_cons_left_iff.1 hsources
    obtain ⟨hfirst, hseparated⟩ := List.isChain_cons.1 hseparated
    have hrest : Segment.literal "" ∉ segments := fun h => hne (List.mem_cons_of_mem _ h)
    refine ⟨?_, hinert text List.mem_cons_self, ?_, others.flatten, ?_, ?_⟩
    · rintro rfl
      exact hne List.mem_cons_self
    · intro other hother
      simpa [Segment.placeholder?] using hfirst (.literal other) hother
    · rw [List.flatten_cons, hsource]
    · exact ⟨⟨others, rfl, hothers, (List.isChain_cons.1 hchain).2⟩, hrest, hseparated,
        fun other h => hinert other (List.mem_cons_of_mem _ h)⟩
  · rintro ⟨hne, hinert, hliteral, rest, rfl, hrest⟩
    have hhead := hrest.head?_eq hliteral
    obtain ⟨⟨slices, rfl, hsources, hchain⟩, hnonempty, hseparated, hrestinert⟩ := hrest
    refine ⟨⟨text.toList :: slices, rfl, .cons rfl hsources, ?_⟩, ?_, ?_, ?_⟩
    · -- behind a literal comes a question mark or nothing, and neither goes on with an index
      rw [isChain_delimited_cons_iff hsources hnonempty]
      refine ⟨.inr fun d hd => ?_, hchain⟩
      rw [hhead d hd]
      decide
    · intro hmem
      rcases List.mem_cons.1 hmem with heq | hmem
      · cases heq
        exact hne rfl
      · exact hnonempty hmem
    · refine List.isChain_cons.2 ⟨?_, hseparated⟩
      intro segment hsegment
      cases segment with
      | literal other => exact absurd hsegment (hliteral other)
      | placeholder p => exact .inr rfl
    · intro other hmem
      rcases List.mem_cons.1 hmem with heq | hmem
      · cases heq
        exact hinert
      · exact hrestinert other hmem

theorem isDecomposition_placeholder_iff {s : List Char} {p : Placeholder}
    {segments : List Segment} :
    IsDecomposition s (.placeholder p :: segments) ↔
      ∃ slice rest, s = slice ++ rest ∧ Placed slice p rest ∧ IsDecomposition rest segments := by
  constructor
  · rintro ⟨⟨slices, rfl, hsources, hchain⟩, hne, hseparated, hinert⟩
    obtain ⟨slice, others, hsource, hothers, rfl⟩ := List.forall₂_cons_left_iff.1 hsources
    have hrest : Segment.literal "" ∉ segments := fun h => hne (List.mem_cons_of_mem _ h)
    obtain ⟨hdelimited, hchain⟩ := (isChain_delimited_cons_iff hothers hrest).1 hchain
    exact ⟨slice, others.flatten, rfl, ⟨hsource, hdelimited⟩, ⟨others, rfl, hothers, hchain⟩,
      hrest, (List.isChain_cons.1 hseparated).2,
      fun other h => hinert other (List.mem_cons_of_mem _ h)⟩
  · rintro ⟨slice, rest, rfl, ⟨hspells, hdelimited⟩, ⟨slices, rfl, hsources, hchain⟩,
      hnonempty, hseparated, hinert⟩
    refine ⟨⟨slice :: slices, rfl, .cons hspells hsources, ?_⟩, ?_, ?_, ?_⟩
    · exact (isChain_delimited_cons_iff hsources hnonempty).2 ⟨hdelimited, hchain⟩
    · simpa using hnonempty
    · exact List.isChain_cons.2 ⟨fun _ _ => .inl rfl, hseparated⟩
    · intro other hmem
      exact hinert other (by simpa using hmem)

end Template
end BoundUpdate
