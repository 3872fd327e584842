import BoundUpdate.Proofs.Template.Segments

namespace BoundUpdate
namespace Template

/-!
# Refused template texts

A template text is read or refused, and a refusal should name the text and a
column of it.  The columns that the reader tells lie inside the text, whatever
the text is.  An index of more digits than are read is refused as well, but by
the failure of the operation that reads digits, which names neither.  The main
statement is that nothing else leads to such a failure: a text is reported
exactly when all indexes that the scan meets are short.
-/

/-! ## The columns of faults -/

theorem column_eq_of_readIndex {column c : Nat} {ds : List Char} {fault : TemplateFault}
    (h : readIndex column ds = .error (.malformed fault c)) : c = column := by
  rw [readIndex] at h
  split at h
  · cases h
  · split at h
    · cases h
      rfl
    · cases h

theorem column_eq_of_readPath {column c : Nat} {content : List Char} {parts : List (List Char)}
    {fault : TemplateFault} (h : readPath column content parts = .error (.malformed fault c)) :
    c = column := by
  rcases readPath_cases column content parts with hnames | ⟨other, hother⟩
  · rw [readPath_of_names hnames] at h
    cases h
  · rw [hother] at h
    cases h
    rfl

/-- Content is told with its own column or with that of the brace in front of it. -/
theorem column_le_of_readContent {column c : Nat} {content : List Char} {fault : TemplateFault}
    (h : readContent column content = .error (.malformed fault c)) : c ≤ column := by
  by_cases hnil : content = []
  · rw [readContent, if_pos hnil] at h
    cases h
    exact Nat.sub_le column 1
  cases hsplit : Text.splitOn '.' content with
  | nil => exact absurd hsplit (Text.splitOn_ne_nil '.' content)
  | cons ds parts =>
    rw [readContent_of_splitOn hnil hsplit] at h
    split at h
    · rcases except_bind_error h with hindex | ⟨n, -, h⟩
      · exact (column_eq_of_readIndex hindex).le
      · rcases except_bind_error h with hpath | ⟨members, -, h⟩
        · exact (column_eq_of_readPath hpath).le
        · cases h
    · cases h
      exact Nat.le_refl column

/-- A fault is told with a column of the text. -/
theorem column_lt_of_readFrom {column c : Nat} {s : List Char} {fault : TemplateFault}
    (h : readFrom column s = .error (.malformed fault c)) : c < column + s.length := by
  -- whole placeholders are passed over, so the induction is on the length
  induction hn : s.length using Nat.strong_induction_on generalizing s column with
  | _ n ih =>
    subst hn
    by_cases hopens : Opens s
    · rcases hopens.forms with ⟨body, rfl, hbody⟩ | ⟨content, rest, rfl, hcontent⟩ |
        ⟨d, ds, rest, rfl, hdigits, hrest⟩
      · rw [readFrom_unclosed hbody] at h
        cases h
        simp only [List.length_cons]
        omega
      · rw [readFrom_braced hcontent] at h
        simp only [List.length_cons, List.length_append] at ih ⊢
        rcases except_bind_error h with hfault | ⟨p, -, h⟩
        · have hle := column_le_of_readContent hfault
          omega
        · rcases except_bind_error h with hbehind | ⟨segments, -, h⟩
          · have hlt := ih rest.length (by omega) hbehind rfl
            omega
          · cases h
      · rw [readFrom_digits hdigits hrest] at h
        simp only [List.length_cons, List.length_append] at h ih ⊢
        rcases except_bind_error h with hindex | ⟨n, -, h⟩
        · have heq := column_eq_of_readIndex hindex
          omega
        · rcases except_bind_error h with hbehind | ⟨segments, -, h⟩
          · have hlt := ih rest.length (by omega) hbehind rfl
            omega
          · cases h
    · cases s with
      | nil =>
        rw [readFrom] at h
        cases h
      | cons d rest =>
        rw [readFrom_of_not_opens hopens] at h
        have hlt := ih rest.length (Nat.lt_succ_self _) (except_map_error h) rfl
        rw [List.length_cons]
        omega

/-! ## Long indexes -/

/-- Digits of an index that the scan of a text meets, more of them than are read. -/
structure LongIndex (s ds : List Char) : Prop where
  met : ∃ q r, Reaches s q r ∧ IndexOf r ds
  long : Number.digitLimit < ds.length

/-- What refuses a rest of the text for a long index refuses the text for one, perhaps an earlier
one. -/
theorem Reaches.exists_longIndex {s r : List Char} {q : Nat} (h : Reaches s q r) {column : Nat}
    (hrest : ∃ ds, LongIndex s ds ∧ readFrom (column + q) r = .error (.indexTooLong ds.length)) :
    ∃ ds, LongIndex s ds ∧ readFrom column s = .error (.indexTooLong ds.length) := by
  induction h with
  | start => exact hrest
  | literal _ hopens ih =>
    obtain ⟨ds, hds, herror⟩ := hrest
    refine ih ⟨ds, hds, ?_⟩
    rw [readFrom_of_not_opens hopens, Nat.add_assoc, herror]
    rfl
  | @placeholder q slice rest p hreach hplaced ih =>
    apply ih
    by_cases hshort : ShortIndex (slice ++ rest)
    · obtain ⟨ds, hds, herror⟩ := hrest
      refine ⟨ds, hds, ?_⟩
      rw [readFrom_placed hplaced hshort, Nat.add_assoc, herror]
      rfl
    · -- the placeholder is well formed, but its own index is long
      simp only [ShortIndex, not_forall, not_le] at hshort
      obtain ⟨ds, hindex, hlong⟩ := hshort
      exact ⟨ds, ⟨⟨q, _, hreach, hindex⟩, hlong⟩, readFrom_of_long hindex hlong _⟩

/-- A text with a long index is refused for a long index. -/
theorem exists_longIndex {s : List Char} (h : ¬ ShortIndexes s) (column : Nat) :
    ∃ ds, LongIndex s ds ∧ readFrom column s = .error (.indexTooLong ds.length) := by
  simp only [ShortIndexes, ShortIndex, not_forall, not_le] at h
  obtain ⟨q, r, hreach, ds, hindex, hlong⟩ := h
  exact hreach.exists_longIndex
    ⟨ds, ⟨⟨q, r, hreach, hindex⟩, hlong⟩, readFrom_of_long hindex hlong _⟩

/-! ## Reports -/

/-- A failure that tells what is wrong with a template text: it is one of templates, and it names
the text and a column of it. -/
structure Locates (source : String) (failure : Failure) : Prop where
  kind_eq : failure.kind = .template
  source?_eq : failure.source? = some source
  column?_eq : ∃ column < source.length, failure.column? = some column

/-- What reading a template text should come to. -/
inductive IsReport (source : String) : Except Failure Template → Prop
  | read {t : Template} (hsource : t.source = source) : IsReport source (.ok t)
  | refused {failure : Failure} (hlocates : Locates source failure) :
      IsReport source (.error failure)

theorem locates_malformed {source : String} {fault : TemplateFault} {column : Nat}
    (h : column < source.length) :
    Locates source ((ReadError.malformed fault column).failure source) :=
  ⟨rfl, rfl, column, h, rfl⟩

theorem not_isReport_indexTooLong (source : String) (digits : Nat) :
    ¬ IsReport source (.error ((ReadError.indexTooLong digits).failure source)) := by
  rintro (_ | ⟨⟨hkind, -, -⟩⟩)
  cases hkind

/-- Without long indexes, a text is read, or refused for a fault. -/
theorem isReport_of_shortIndexes {source : String} (h : ShortIndexes source.toList) :
    IsReport source ((read source).mapError (ReadError.failure source)) := by
  cases hread : read source with
  | ok t => exact .read (read_eq_ok_iff.1 hread).1
  | error e =>
    obtain ⟨fault, column, q, rfl, -, -⟩ := exists_malformedAt_of_read h hread
    have hlt := column_lt_of_readFrom (read_eq_error_iff.1 hread)
    rw [Nat.zero_add, String.length_toList] at hlt
    exact .refused (locates_malformed hlt)

/-- A template text is read, or refused with its text and a column of it, exactly when no index that
the scan meets has more digits than are read.  The failure for a longer index tells the number of
its digits only. -/
theorem reported_iff_shortIndexes (v : Value) {source : String} (htext : v.text? = some source)
    (activity : Activity) :
    (IsReport source (ofValue v activity).1 ↔ ShortIndexes source.toList) ∧
      (¬ ShortIndexes source.toList →
        ∃ ds, LongIndex source.toList ds ∧
          (ofValue v activity).1 = .error ((ReadError.indexTooLong ds.length).failure source)) := by
  rw [ofValue_fst htext]
  have hlong : ¬ ShortIndexes source.toList → ∃ ds, LongIndex source.toList ds ∧
      (read source).mapError (ReadError.failure source) =
        .error ((ReadError.indexTooLong ds.length).failure source) := by
    intro hshort
    obtain ⟨ds, hds, herror⟩ := exists_longIndex hshort 0
    exact ⟨ds, hds, by rw [read_eq_error_iff.2 herror]; rfl⟩
  refine ⟨⟨fun hreport => ?_, isReport_of_shortIndexes⟩, hlong⟩
  by_contra hshort
  obtain ⟨ds, -, herror⟩ := hlong hshort
  rw [herror] at hreport
  exact not_isReport_indexTooLong source ds.length hreport

/-- A member of a textual enumeration is a text as well; the last column of this one is told. -/
theorem member_reported :
    let member := Value.enumMember
      { enumeration := "Sql", name := "PUT", value := .text "SET a = ?0", base := .text }
    member.text? = some "SET a = ?0" ∧ IsReport "SET a = ?0" (ofValue member {}).1 ∧
      (ofValue member {}).1 = .error (.template (.malformed .zeroIndex "SET a = ?0" 9)) := by
  intro member
  have htext : member.text? = some "SET a = ?0" := rfl
  have hshort : ShortIndexes "SET a = ?0".toList := shortIndexes_of_length_le (by decide +kernel)
  have hread : read "SET a = ?0" = .error (.malformed .zeroIndex 9) := by decide +kernel
  obtain ⟨hreported, -⟩ := reported_iff_shortIndexes member htext {}
  exact ⟨htext, hreported.2 hshort, by rw [ofValue_fst htext, hread]; rfl⟩

/-- An index of one digit more than are read: the failure is not one of templates, and it names
neither the text nor a column. -/
theorem long_index_not_reported :
    let source := String.ofList ('?' :: List.replicate 4301 '1')
    (ofValue (.text source) {}).1 = .error ((ReadError.indexTooLong 4301).failure source) ∧
      ¬ IsReport source (ofValue (.text source) {}).1 := by
  intro source
  have hdigits : ∀ d ∈ List.replicate 4301 '1', Number.isDigit d = true := by
    intro d hd
    rw [List.eq_of_mem_replicate hd]
    decide
  have hindex : IndexOf source.toList (List.replicate 4301 '1') := by
    have htext : source.toList = '?' :: (List.replicate 4301 '1' ++ []) := by
      rw [List.append_nil, String.toList_ofList]
    rw [htext]
    exact .bare hdigits nofun
  have hlong : Number.digitLimit < (List.replicate 4301 '1').length := by
    rw [List.length_replicate]
    decide
  have hread := readFrom_of_long hindex hlong 0
  rw [List.length_replicate] at hread
  have houtcome : (ofValue (.text source) {}).1 =
      .error ((ReadError.indexTooLong 4301).failure source) :=
    ofValue_text_error_iff.2 ⟨_, read_eq_error_iff.2 hread, rfl⟩
  refine ⟨houtcome, ?_⟩
  rw [houtcome]
  exact not_isReport_indexTooLong source 4301

end Template
end BoundUpdate
