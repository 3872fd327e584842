import BoundUpdate.Proofs.Template.Reading

namespace BoundUpdate
namespace Template

/-!
# The segments of a template

What the reader makes of a text decomposes the text, and nothing else does.  The
main statement puts this together with the grammar: which texts are read, what
they are read into, and which error the others lead to.
-/

/-! ## Literals -/

theorem inert_singleton (c : Char) : Inert [c] := by
  intro before d after h
  have hlength := congrArg List.length h
  simp only [List.length_append, List.length_cons, List.length_nil] at hlength
  omega

theorem Inert.tail {c : Char} {s : List Char} (h : Inert (c :: s)) : Inert s := by
  rintro before d after rfl
  exact h (c :: before) d after rfl

/-- An inert text stays so with a character in front that does not open with it. -/
theorem Inert.cons {c : Char} {s rest : List Char} (h : Inert s)
    (hopens : ¬ Opens (c :: (s ++ rest))) : Inert (c :: s) := by
  intro before d after heq
  cases before with
  | nil =>
    obtain ⟨rfl, rfl⟩ := List.cons.inj heq
    simpa [opens_cons_cons_iff] using hopens
  | cons e before =>
    obtain ⟨rfl, rfl⟩ := List.cons.inj heq
    exact h before d after rfl

/-- An inert text opens nothing together with what follows if that is a question mark. -/
theorem Inert.not_opens {c : Char} {s rest : List Char} (h : Inert (c :: s))
    (hrest : ∀ d ∈ rest.head?, d = '?') : ¬ Opens (c :: (s ++ rest)) := by
  cases s with
  | nil =>
    cases rest with
    | nil => exact not_opens_singleton c
    | cons d rest =>
      obtain rfl : d = '?' := hrest d rfl
      rw [List.nil_append, opens_cons_cons_iff]
      rintro ⟨-, hd⟩
      exact absurd hd (by decide)
  | cons d s =>
    rw [List.cons_append, opens_cons_cons_iff]
    rintro ⟨rfl, hd⟩
    rw [h [] d s rfl] at hd
    cases hd

/-- The scan passes over an inert text. -/
theorem reaches_behind_inert {s rest : List Char} (h : Inert s)
    (hrest : ∀ d ∈ rest.head?, d = '?') : Reaches (s ++ rest) s.length rest := by
  induction s with
  | nil => exact .start
  | cons c s ih =>
    have hstep := (reaches_tail (h.not_opens hrest)).trans (ih h.tail)
    rwa [Nat.add_comm] at hstep

theorem readFrom_inert {s rest : List Char} (h : Inert s) (hrest : ∀ d ∈ rest.head?, d = '?')
    (column : Nat) :
    readFrom column (s ++ rest) =
      (readFrom (column + s.length) rest).map fun segments => s.foldr prependChar segments := by
  induction s generalizing column with
  | nil =>
    show readFrom column rest = (readFrom column rest).map fun segments => segments
    cases readFrom column rest <;> rfl
  | cons c s ih =>
    have hcolumn : column + 1 + s.length = column + (c :: s).length := by
      rw [List.length_cons]
      omega
    rw [List.cons_append, readFrom_of_not_opens (h.not_opens hrest), ih h.tail, hcolumn]
    cases readFrom (column + (c :: s).length) rest <;> rfl

/-- Characters put in front of segments that start with no literal make one literal. -/
theorem foldr_prependChar (c : Char) (s : List Char) {segments : List Segment}
    (h : ∀ text, segments.head? ≠ some (.literal text)) :
    (c :: s).foldr prependChar segments =
      .literal (String.ofList (c :: s)) :: segments := by
  induction s generalizing c with
  | nil =>
    cases segments with
    | nil => rfl
    | cons segment segments =>
      cases segment with
      | literal text => exact absurd rfl (h text)
      | placeholder p => rfl
  | cons d s ih =>
    rw [List.foldr_cons, ih d, prependChar, String.singleton_eq_ofList, ← String.ofList_append]
    rfl

/-- A literal in front of a text that is read into segments without a literal in front. -/
theorem readFrom_literal {text : String} {rest : List Char} {segments : List Segment}
    (hne : text ≠ "") (hinert : Inert text.toList) (hrest : ∀ d ∈ rest.head?, d = '?')
    (hliteral : ∀ other, segments.head? ≠ some (.literal other)) {column : Nat}
    (hread : readFrom (column + text.toList.length) rest = .ok segments) :
    readFrom column (text.toList ++ rest) = .ok (.literal text :: segments) := by
  rw [readFrom_inert hinert hrest, hread]
  cases htext : text.toList with
  | nil => exact absurd (String.toList_inj.1 htext) hne
  | cons c tail =>
    dsimp only [Except.map]
    rw [foldr_prependChar c tail hliteral, ← htext, String.ofList_toList]

/-! ## Reading and decomposing -/

/-- A character in front of segments that start with no literal is a literal of its own. -/
theorem isDecomposition_singleton (c : Char) {rest : List Char} {segments : List Segment}
    (hliteral : ∀ text, segments.head? ≠ some (.literal text))
    (h : IsDecomposition rest segments) :
    IsDecomposition (c :: rest) (.literal (String.singleton c) :: segments) := by
  have hlist : (String.singleton c).toList = [c] := String.toList_singleton c
  refine isDecomposition_literal_iff.2 ⟨?_, ?_, hliteral, rest, ?_, h⟩
  · intro heq
    rw [heq] at hlist
    cases hlist
  · rw [hlist]
    exact inert_singleton c
  · rw [hlist]
    rfl

theorem isDecomposition_prependChar {c : Char} {rest : List Char} {segments : List Segment}
    (hopens : ¬ Opens (c :: rest)) (h : IsDecomposition rest segments) :
    IsDecomposition (c :: rest) (prependChar c segments) := by
  cases segments with
  | nil => exact isDecomposition_singleton c (fun other => by simp) h
  | cons segment segments =>
    cases segment with
    | literal text =>
      -- the character joins the literal, and does not open anything with its first one
      obtain ⟨_, hinert, hliteral, tail, rfl, htail⟩ := isDecomposition_literal_iff.1 h
      have htext : (String.singleton c ++ text).toList = c :: text.toList := by
        rw [String.toList_append, String.toList_singleton]
        rfl
      refine isDecomposition_literal_iff.2 ⟨?_, ?_, hliteral, tail, ?_, htail⟩
      · intro heq
        rw [heq] at htext
        cases htext
      · rw [htext]
        exact hinert.cons hopens
      · rw [htext]
        rfl
    | placeholder p => exact isDecomposition_singleton c (fun other => by simp) h

/-- The segments that a text is read into decompose it. -/
theorem isDecomposition_of_readFrom {s : List Char} {segments : List Segment} {column : Nat}
    (h : readFrom column s = .ok segments) : IsDecomposition s segments := by
  induction s using scan_induction generalizing column segments with
  | nil =>
    rw [readFrom] at h
    cases h
    exact isDecomposition_nil_iff.2 rfl
  | literal c rest hopens ih =>
    rw [readFrom_of_not_opens hopens] at h
    obtain ⟨others, hrest, rfl⟩ := except_map_ok h
    exact isDecomposition_prependChar hopens (ih hrest)
  | placeholder slice p rest hplaced ih =>
    rw [readFrom_placed hplaced (shortIndex_of_readFrom h)] at h
    obtain ⟨others, hrest, rfl⟩ := except_map_ok h
    exact isDecomposition_placeholder_iff.2 ⟨slice, rest, rfl, hplaced, ih hrest⟩
  | malformed s hopens hstart =>
    exact absurd (wellFormed_of_readFrom h 0 s .start hopens) hstart

/-- A text is read into whatever segments decompose it. -/
theorem readFrom_of_isDecomposition {s : List Char} {segments : List Segment}
    (hshort : ShortIndexes s) (h : IsDecomposition s segments) (column : Nat) :
    readFrom column s = .ok segments := by
  induction segments generalizing s column with
  | nil =>
    rw [isDecomposition_nil_iff] at h
    subst h
    rw [readFrom]
  | cons segment segments ih =>
    cases segment with
    | literal text =>
      obtain ⟨hne, hinert, hliteral, rest, rfl, hrest⟩ := isDecomposition_literal_iff.1 h
      have hhead := hrest.head?_eq hliteral
      -- the scan passes over the literal one character at a time, and puts it together again
      have hread := ih (hshort.of_reaches (reaches_behind_inert hinert hhead)) hrest
        (column + text.toList.length)
      exact readFrom_literal hne hinert hhead hliteral hread
    | placeholder p =>
      obtain ⟨slice, rest, rfl, hplaced, hrest⟩ := isDecomposition_placeholder_iff.1 h
      have hread := ih (hshort.of_reaches (reaches_behind hplaced)) hrest (column + slice.length)
      rw [readFrom_placed hplaced hshort.start, hread]
      rfl

/-! ## Template texts -/

theorem read_eq_ok_iff {source : String} {t : Template} :
    read source = .ok t ↔ t.source = source ∧ readFrom 0 source.toList = .ok t.segments := by
  constructor
  · intro h
    obtain ⟨segments, hsegments, rfl⟩ := except_map_ok h
    exact ⟨rfl, hsegments⟩
  · rintro ⟨rfl, hsegments⟩
    rw [read, hsegments]
    rfl

theorem read_eq_error_iff {source : String} {e : ReadError} :
    read source = .error e ↔ readFrom 0 source.toList = .error e := by
  unfold read
  cases readFrom 0 source.toList with
  | ok segments => simp [Except.map]
  | error other => simp [Except.map]

theorem isDecomposition_of_read {source : String} {t : Template} (h : read source = .ok t) :
    IsDecomposition source.toList t.segments :=
  isDecomposition_of_readFrom (read_eq_ok_iff.1 h).2

/-- Within the limit of digits, the texts that are read are the well formed ones. -/
theorem exists_read_iff {source : String} (hshort : ShortIndexes source.toList) :
    (∃ t, read source = .ok t) ↔ WellFormed source.toList := by
  constructor
  · rintro ⟨t, ht⟩
    exact wellFormed_of_readFrom (read_eq_ok_iff.1 ht).2
  · intro hwell
    obtain ⟨segments, hsegments⟩ := exists_segments hwell hshort 0
    exact ⟨{ source, segments }, read_eq_ok_iff.2 ⟨rfl, hsegments⟩⟩

theorem segments_unique {source : String} {t : Template} (h : read source = .ok t)
    {segments : List Segment} (hdecomposition : IsDecomposition source.toList segments) :
    segments = t.segments := by
  have hread := (read_eq_ok_iff.1 h).2
  have hother := readFrom_of_isDecomposition (shortIndexes_of_readFrom hread) hdecomposition 0
  rw [hread] at hother
  cases hother
  rfl

/-- Within the limit of digits, the error tells where the leftmost malformed placeholder is. -/
theorem exists_malformedAt_of_read {source : String} {e : ReadError}
    (hshort : ShortIndexes source.toList) (h : read source = .error e) :
    ∃ fault column q, e = .malformed fault column ∧ MalformedAt source.toList q ∧
      (column = q + 1 ∨ column = q + 2) := by
  have hmalformed : ¬ WellFormed source.toList := by
    intro hwell
    obtain ⟨t, ht⟩ := (exists_read_iff hshort).2 hwell
    rw [ht] at h
    cases h
  obtain ⟨q, hq⟩ := exists_malformedAt hmalformed
  obtain ⟨fault, c, herror, hc⟩ := readFrom_of_malformedAt hq hshort
  rw [read_eq_error_iff.2 herror] at h
  cases h
  exact ⟨fault, c, q, rfl, hq, hc⟩

/-- What comes of a value that is a text depends on the text only, not on what was done before. -/
theorem ofValue_fst {v : Value} {source : String} (h : v.text? = some source)
    (activity : Activity) :
    (ofValue v activity).1 = (read source).mapError (ReadError.failure source) := by
  rw [ofValue, h]
  dsimp only
  cases read source <;> rfl

theorem ofValue_text_fst (source : String) (activity : Activity) :
    (ofValue (.text source) activity).1 = (read source).mapError (ReadError.failure source) :=
  ofValue_fst (Value.text?_text source) activity

theorem ofValue_text_ok_iff {source : String} {activity : Activity} {t : Template} :
    (ofValue (.text source) activity).1 = .ok t ↔ read source = .ok t := by
  rw [ofValue_text_fst]
  cases read source <;> simp [Except.mapError]

theorem ofValue_text_error_iff {source : String} {activity : Activity} {failure : Failure} :
    (ofValue (.text source) activity).1 = .error failure ↔
      ∃ e, read source = .error e ∧ failure = e.failure source := by
  rw [ofValue_text_fst]
  cases read source <;> simp [Except.mapError, eq_comm]

/-- Reading a template text succeeds exactly when the text is well formed.  The segments decompose
the text, and no others do.  Otherwise the error names the text and the column one or two behind the
question mark of the leftmost malformed placeholder. -/
theorem template_read_iff_wellFormed (source : String) (activity : Activity)
    (hshort : ShortIndexes source.toList) :
    ((∃ t, (ofValue (.text source) activity).1 = .ok t) ↔ WellFormed source.toList) ∧
    (∀ t, (ofValue (.text source) activity).1 = .ok t →
      t.source = source ∧ IsDecomposition source.toList t.segments ∧
        ∀ segments, IsDecomposition source.toList segments → segments = t.segments) ∧
    ∀ failure, (ofValue (.text source) activity).1 = .error failure →
      ∃ fault column q, failure = .template (.malformed fault source column) ∧
        MalformedAt source.toList q ∧ (column = q + 1 ∨ column = q + 2) := by
  simp only [ofValue_text_ok_iff, ofValue_text_error_iff]
  refine ⟨exists_read_iff hshort, ?_, ?_⟩
  · intro t ht
    exact ⟨(read_eq_ok_iff.1 ht).1, isDecomposition_of_read ht, fun _ => segments_unique ht⟩
  · rintro failure ⟨e, he, rfl⟩
    obtain ⟨fault, column, q, rfl, hq, hcolumn⟩ := exists_malformedAt_of_read hshort he
    exact ⟨fault, column, q, rfl, hq, hcolumn⟩

/-- A bare question mark, a braced placeholder with a leading zero, and digits right behind it; then
a text whose second placeholder has an empty member. -/
theorem template_read_braced_and_malformed :
    (ShortIndexes "??\x7b01.a\x7d2?".toList ∧ WellFormed "??\x7b01.a\x7d2?".toList ∧
      IsDecomposition "??\x7b01.a\x7d2?".toList
        [.literal "?", .placeholder { index := 1, path := ["a"] }, .literal "2?"]) ∧
    ShortIndexes "?1 ?\x7b1.\x7d".toList ∧
      ∃ q, MalformedAt "?1 ?\x7b1.\x7d".toList q ∧ (5 = q + 1 ∨ 5 = q + 2) := by
  have hread : (ofValue (.text "??\x7b01.a\x7d2?") {}).1 =
      .ok { source := "??\x7b01.a\x7d2?", segments :=
        [.literal "?", .placeholder { index := 1, path := ["a"] }, .literal "2?"] } := by
    rw [ofValue_text_ok_iff]
    cbv
  have herror : (ofValue (.text "?1 ?\x7b1.\x7d") {}).1 =
      .error (.template (.malformed (.badMember "" "1.") "?1 ?\x7b1.\x7d" 5)) := by
    have hfault : read "?1 ?\x7b1.\x7d" = .error (.malformed (.badMember "" "1.") 5) := by
      decide +kernel
    exact ofValue_text_error_iff.2 ⟨_, hfault, rfl⟩
  have hshort : ShortIndexes "??\x7b01.a\x7d2?".toList :=
    shortIndexes_of_length_le (by decide +kernel)
  have hshort' : ShortIndexes "?1 ?\x7b1.\x7d".toList :=
    shortIndexes_of_length_le (by decide +kernel)
  obtain ⟨hiff, hok, _⟩ := template_read_iff_wellFormed "??\x7b01.a\x7d2?" {} hshort
  obtain ⟨_, _, hfail⟩ := template_read_iff_wellFormed "?1 ?\x7b1.\x7d" {} hshort'
  obtain ⟨fault, column, q, heq, hq, hcolumn⟩ := hfail _ herror
  cases heq
  exact ⟨⟨hshort, hiff.1 ⟨_, hread⟩, (hok _ hread).2.1⟩, hshort', q, hq, hcolumn⟩

end Template
end BoundUpdate
