import BoundUpdate.Proofs.Template.MarkerReading

namespace BoundUpdate

/-!
# Source forms of segments

A segment has a source form: a literal is its own, a placeholder is described.
The description of a placeholder that was read is one of its spellings, and the
shortest.  The source forms of a template's segments, one after the other, read
back as the same segments exactly when no description that is a bare run of
digits is directly followed by a digit.
-/

namespace Segment

/-- A source form of a segment. -/
def sourceForm : Segment → List Char
  | .literal text => text.toList
  | .placeholder p => p.describe.toList

/-- Whether a segment is a placeholder without members. -/
def isBare : Segment → Bool
  | .literal _ => false
  | .placeholder p => p.path.isEmpty

end Segment

namespace Template

/-- The source forms of the segments, one after the other. -/
def sourceForm (t : Template) : String := String.ofList (t.segments.flatMap Segment.sourceForm)

/-- No placeholder without members is directly followed by a literal that starts with a digit. -/
def BareApart (segments : List Segment) : Prop :=
  segments.IsChain fun a b => a.isBare = true → goesOn Number.isDigit b = false

instance (segments : List Segment) : Decidable (BareApart segments) :=
  inferInstanceAs (Decidable (segments.IsChain fun a b =>
    a.isBare = true → goesOn Number.isDigit b = false))

/-! ## Descriptions -/

/-- A placeholder as reading makes it: it counts from one, its index can be written and its members
are names. -/
structure IsRead (p : Placeholder) : Prop where
  index : ∃ n : Nat, p.index = n ∧ 1 ≤ n ∧ (Number.natChars n).length ≤ Number.digitLimit
  names : ∀ name ∈ p.path, Text.isIdentifier name.toList = true

theorem isIndex_natChars {n : Nat} (h : 1 ≤ n) : IsIndex (Number.natChars n) where
  ne_nil := Number.natChars_ne_nil n
  digits := fun _ hd => Number.isDigit_of_mem_natChars hd
  pos := by rwa [Number.readDigits_natChars]

theorem isWritable_of_isRead {p : Placeholder} (h : IsRead p) :
    Number.isWritable p.index = true := by
  obtain ⟨n, hn, -, hlength⟩ := h.index
  rw [Number.natChars, List.length_map] at hlength
  simpa [hn, Number.isWritable] using hlength

theorem isRead_of_isIndex {ds : List Char} {names : List (List Char)} (hindex : IsIndex ds)
    (hshort : ds.length ≤ Number.digitLimit)
    (hnames : ∀ name ∈ names, Text.isIdentifier name = true) :
    IsRead { index := Number.readDigits ds, path := names.map String.ofList } where
  index := ⟨_, rfl, hindex.pos,
    (Number.length_natChars_le hindex.ne_nil hindex.digits).trans hshort⟩
  names := by
    intro name hname
    obtain ⟨chars, hchars, rfl⟩ := List.mem_map.1 hname
    rw [String.toList_ofList]
    exact hnames chars hchars

theorem isRead_of_placed {slice rest : List Char} {p : Placeholder} (h : Placed slice p rest)
    (hshort : ShortIndex (slice ++ rest)) : IsRead p := by
  obtain ⟨hspells, hdelimited⟩ := h
  cases hspells with
  | @bare ds hindex =>
    have hrest := hindex.head?_of_delimited hdelimited
    have hlength := hshort ds (.bare hindex.digits hrest)
    have hnames : ∀ name ∈ ([] : List (List Char)), Text.isIdentifier name = true := by simp
    exact isRead_of_isIndex hindex hlength hnames
  | @braced ds names hindex hnames =>
    have htext : ('?' :: '{' :: (Text.join '.' (ds :: names) ++ ['}'])) ++ rest =
        '?' :: '{' :: (Text.join '.' (ds :: names) ++ '}' :: rest) := by simp
    rw [htext] at hshort
    have hlength := hshort ds (.braced hindex.digits (not_mem_join_of_names hindex hnames))
    exact isRead_of_isIndex hindex hlength hnames

/-- All placeholders of a text that is read are so. -/
theorem isRead_of_isDecomposition {s : List Char} {segments : List Segment}
    (h : IsDecomposition s segments) (hshort : ShortIndexes s) {p : Placeholder}
    (hp : Segment.placeholder p ∈ segments) : IsRead p := by
  induction segments generalizing s with
  | nil => exact absurd hp List.not_mem_nil
  | cons segment segments ih =>
    cases segment with
    | literal text =>
      obtain ⟨-, hinert, hliteral, rest, rfl, hrest⟩ := isDecomposition_literal_iff.1 h
      have hreach := reaches_behind_inert hinert (hrest.head?_eq hliteral)
      exact ih hrest (hshort.of_reaches hreach) (by simpa using hp)
    | placeholder q =>
      obtain ⟨slice, rest, rfl, hplaced, hrest⟩ := isDecomposition_placeholder_iff.1 h
      rcases List.mem_cons.1 hp with heq | hp
      · cases heq
        exact isRead_of_placed hplaced hshort.start
      · exact ih hrest (hshort.of_reaches (reaches_behind hplaced)) hp

theorem join_eq_intercalate (parts : List (List Char)) :
    Text.join '.' parts = ['.'].intercalate parts := by
  induction parts with
  | nil => rfl
  | cons part parts ih =>
    cases parts with
    | nil => simp [Text.join]
    | cons next parts => simp [Text.join, ih]

theorem intText_natCast (n : Nat) : (Number.intText n).toList = Number.natChars n := by
  have hnot : ¬ (n : Int) < 0 := by omega
  rw [Number.intText, if_neg hnot, Int.natAbs_natCast, Number.natText, String.toList_ofList]

theorem describe_of_path_nil {p : Placeholder} {n : Nat} (hn : p.index = n) (hpath : p.path = []) :
    p.describe.toList = '?' :: Number.natChars n := by
  simp [Placeholder.describe, hn, hpath, intText_natCast]

theorem describe_of_path_ne_nil {p : Placeholder} {n : Nat} (hn : p.index = n)
    (hpath : p.path ≠ []) :
    p.describe.toList =
      '?' :: '{' :: (Text.join '.' (Number.natChars n :: p.path.map String.toList) ++ ['}']) := by
  simp [Placeholder.describe, hn, hpath, intText_natCast, join_eq_intercalate]

/-- The member names of a placeholder that was read. -/
theorem IsRead.names_toList {p : Placeholder} (h : IsRead p) :
    ∀ name ∈ p.path.map String.toList, Text.isIdentifier name = true := by
  intro name hname
  obtain ⟨member, hmember, rfl⟩ := List.mem_map.1 hname
  exact h.names member hmember

/-- A placeholder that was read, as the one that its own notation spells. -/
theorem eq_of_index {p : Placeholder} {n : Nat} (hn : p.index = n) :
    p = { index := Number.readDigits (Number.natChars n)
          path := (p.path.map String.toList).map String.ofList } := by
  cases p
  simp_all [Number.readDigits_natChars]

/-- A description is read as the placeholder that it describes, unless digits go on behind it. -/
theorem readFrom_describe {p : Placeholder} (h : IsRead p) {rest : List Char}
    (hrest : p.path = [] → ∀ d ∈ rest.head?, Number.isDigit d = false) (column : Nat) :
    readFrom column (p.describe.toList ++ rest) =
      (readFrom (column + p.describe.toList.length) rest).map (.placeholder p :: ·) := by
  obtain ⟨n, hn, hpos, hlength⟩ := h.index
  have hindex := isIndex_natChars hpos
  by_cases hpath : p.path = []
  · have hp : p = { index := Number.readDigits (Number.natChars n) } := by
      simpa [hpath] using eq_of_index hn
    have hread := readFrom_bare hindex hlength (hrest hpath) column
    rw [describe_of_path_nil hn hpath, List.cons_append, hread, ← hp]
  · rw [describe_of_path_ne_nil hn hpath, List.cons_append, List.cons_append, List.append_assoc,
      List.singleton_append, readFrom_named hindex h.names_toList hlength, ← eq_of_index hn]

/-- A longest run of digits in a text that starts with the notation of its number is the notation:
more digits would spell more. -/
theorem eq_natChars_of_append {ds rest tail : List Char} (hindex : IsIndex ds)
    (hrest : ∀ d ∈ rest.head?, Number.isDigit d = false)
    (heq : ds ++ rest = Number.natChars (Number.readDigits ds) ++ tail) :
    ds = Number.natChars (Number.readDigits ds) := by
  have hrun : ds = Number.natChars (Number.readDigits ds) ++ tail.takeWhile Number.isDigit := by
    rw [← List.takeWhile_append_of_pos fun _ hd => Number.isDigit_of_mem_natChars hd, ← heq,
      Text.takeWhile_run hindex.digits hrest]
  by_cases hmore : tail.takeWhile Number.isDigit = []
  · rwa [hmore, List.append_nil] at hrun
  · have hpos := (isIndex_natChars hindex.pos).pos
    have hlt := Number.readDigits_lt_append hpos hmore
    rw [← hrun, Number.readDigits_natChars] at hlt
    exact absurd hlt (lt_irrefl _)

/-- An index with names in a text that starts with an index with names is all of it. -/
theorem eq_of_join_append {ds ds' : List Char} {names names' : List (List Char)}
    {rest tail : List Char} (hindex : IsIndex ds) (hindex' : IsIndex ds')
    (hnames : ∀ name ∈ names, Text.isIdentifier name = true)
    (hnames' : ∀ name ∈ names', Text.isIdentifier name = true)
    (heq : Text.join '.' (ds :: names) ++ '}' :: rest =
      Text.join '.' (ds' :: names') ++ '}' :: tail) :
    Text.join '.' (ds :: names) = Text.join '.' (ds' :: names') := by
  have hrun : ∀ {content : List Char} (after : List Char), '}' ∉ content →
      (content ++ '}' :: after).takeWhile (· != '}') = content := by
    intro content after hcontent
    refine Text.takeWhile_run (fun c hc => ?_) (by simp)
    simpa using fun heq : c = '}' => hcontent (heq ▸ hc)
  rw [← hrun rest (not_mem_join_of_names hindex hnames), heq,
    hrun tail (not_mem_join_of_names hindex' hnames')]

/-- A placeholder without members is spelled without braces in a text that starts with its
description. -/
theorem Spells.exists_bare {slice rest tail : List Char} {p : Placeholder} (h : Spells slice p)
    (hpath : p.path = []) (heq : slice ++ rest = p.describe.toList ++ tail) :
    ∃ ds, slice = '?' :: ds ∧ IsIndex ds ∧ p = { index := Number.readDigits ds } := by
  cases h with
  | @bare ds hindex => exact ⟨ds, rfl, hindex, rfl⟩
  | @braced ds names hindex hnames =>
    -- the description has a digit where the slice has a brace
    rw [describe_of_path_nil rfl hpath] at heq
    obtain ⟨d, digits, hdigits, hd⟩ := (isIndex_natChars hindex.pos).exists_cons
    rw [hdigits] at heq
    obtain ⟨hbrace, -⟩ := List.cons.inj (List.cons.inj heq).2
    exact absurd hbrace.symm (isDigit_ne_brace hd).1

theorem Placed.head?_of_path_nil {rest : List Char} {p : Placeholder}
    (h : Placed p.describe.toList p rest) (hpath : p.path = []) :
    ∀ d ∈ rest.head?, Number.isDigit d = false := by
  obtain ⟨ds, hslice, hindex, -⟩ := h.spells.exists_bare hpath (Eq.refl (_ ++ rest))
  have hdelimited := h.delimited
  rw [hslice] at hdelimited
  exact hindex.head?_of_delimited hdelimited

/-- A placeholder in a text that starts with its description is spelled by the description. -/
theorem Placed.eq_describe {slice rest tail : List Char} {p : Placeholder}
    (h : Placed slice p rest) (heq : slice ++ rest = p.describe.toList ++ tail) :
    slice = p.describe.toList ∧ rest = tail := by
  have hslice : slice = p.describe.toList := by
    obtain ⟨hspells, hdelimited⟩ := h
    by_cases hpath : p.path = []
    · obtain ⟨ds, rfl, hindex, rfl⟩ := hspells.exists_bare hpath heq
      have hrest := hindex.head?_of_delimited hdelimited
      rw [describe_of_path_nil rfl rfl] at heq ⊢
      rw [← eq_natChars_of_append hindex hrest (List.cons.inj heq).2]
    · cases hspells with
      | bare hindex => exact absurd rfl hpath
      | @braced ds names hindex hnames =>
        have hback : (names.map String.ofList).map String.toList = names := by simp
        rw [describe_of_path_ne_nil rfl hpath, hback] at heq ⊢
        have hjoins : Text.join '.' (ds :: names) ++ '\x7d' :: rest =
            Text.join '.' (Number.natChars (Number.readDigits ds) :: names) ++ '\x7d' :: tail := by
          simpa using heq
        have hjoin := eq_of_join_append hindex (isIndex_natChars hindex.pos) hnames hnames hjoins
        rw [hjoin]
  rw [hslice] at heq ⊢
  exact ⟨rfl, List.append_cancel_left heq⟩

/-! ## Source forms of segments -/

theorem bareApart_literal_iff {text : String} {segments : List Segment} :
    BareApart (.literal text :: segments) ↔ BareApart segments := by
  unfold BareApart
  rw [List.isChain_cons]
  exact and_iff_right fun _ _ hbare => nomatch hbare

theorem bareApart_placeholder_iff {p : Placeholder} {segments : List Segment} :
    BareApart (.placeholder p :: segments) ↔
      (p.path = [] → segments.head?.any (goesOn Number.isDigit) = false) ∧
        BareApart segments := by
  unfold BareApart
  rw [List.isChain_cons, Option.any_eq_false]
  refine and_congr_left fun _ => ?_
  simp only [Segment.isBare, List.isEmpty_iff]
  exact ⟨fun h hpath segment hsegment => h segment hsegment hpath,
    fun h segment hsegment hpath => h hpath segment hsegment⟩

theorem head?_describe (p : Placeholder) : p.describe.toList.head? = some '?' := by
  by_cases hpath : p.path = [] <;> simp [Placeholder.describe, hpath]

/-- Source forms start with a question mark when they start with no literal. -/
theorem head?_sourceForm {segments : List Segment}
    (hliteral : ∀ text, segments.head? ≠ some (.literal text)) :
    ∀ c ∈ (segments.flatMap Segment.sourceForm).head?, c = '?' := by
  cases segments with
  | nil => exact fun _ hc => nomatch hc
  | cons segment segments =>
    cases segment with
    | literal text => exact absurd rfl (hliteral text)
    | placeholder p =>
      intro c hc
      rw [List.flatMap_cons, Segment.sourceForm, List.head?_append, head?_describe] at hc
      exact (Option.some.inj hc).symm

/-- A source form starts with a digit only if it is that of a literal. -/
theorem any_head?_sourceForm {segments : List Segment} (hne : Segment.literal "" ∉ segments) :
    (segments.flatMap Segment.sourceForm).head?.any Number.isDigit =
      segments.head?.any (goesOn Number.isDigit) := by
  cases segments with
  | nil => rfl
  | cons segment segments =>
    cases segment with
    | literal text =>
      have htext : text.toList ≠ [] := by
        intro hnil
        obtain rfl : text = "" := String.toList_eq_nil_iff.1 hnil
        exact hne List.mem_cons_self
      rw [List.flatMap_cons, Segment.sourceForm, List.head?_append_of_ne_nil _ htext]
      rfl
    | placeholder p =>
      rw [List.flatMap_cons, Segment.sourceForm, List.head?_append, head?_describe]
      rfl

theorem head?_not_digit_iff {s : List Char} :
    (∀ d ∈ s.head?, Number.isDigit d = false) ↔ s.head?.any Number.isDigit = false := by
  rw [Option.any_eq_false]
  simp

/-- Source forms are read as their segments when nothing goes on with a bare description. -/
theorem readFrom_sourceForm {s : List Char} {segments : List Segment}
    (h : IsDecomposition s segments) (hread : ∀ p, .placeholder p ∈ segments → IsRead p)
    (hapart : BareApart segments) (column : Nat) :
    readFrom column (segments.flatMap Segment.sourceForm) = .ok segments := by
  induction segments generalizing s column with
  | nil =>
    rw [List.flatMap_nil, readFrom]
  | cons segment segments ih =>
    have hothers : ∀ p, .placeholder p ∈ segments → IsRead p :=
      fun p hp => hread p (List.mem_cons_of_mem _ hp)
    cases segment with
    | literal text =>
      obtain ⟨hne, hinert, hliteral, rest, rfl, hrest⟩ := isDecomposition_literal_iff.1 h
      have hnext := ih hrest hothers (bareApart_literal_iff.1 hapart) (column + text.toList.length)
      exact readFrom_literal hne hinert (head?_sourceForm hliteral) hliteral hnext
    | placeholder p =>
      obtain ⟨slice, rest, rfl, hplaced, hrest⟩ := isDecomposition_placeholder_iff.1 h
      obtain ⟨hfirst, hapart⟩ := bareApart_placeholder_iff.1 hapart
      have hp := hread p List.mem_cons_self
      have hnext : p.path = [] → ∀ d ∈ (segments.flatMap Segment.sourceForm).head?,
          Number.isDigit d = false := by
        intro hpath
        rw [head?_not_digit_iff, any_head?_sourceForm hrest.nonempty]
        exact hfirst hpath
      rw [List.flatMap_cons, Segment.sourceForm, readFrom_describe hp hnext,
        ih hrest hothers hapart]
      rfl

/-- Segments decompose their source forms only if nothing goes on with a bare description. -/
theorem bareApart_of_isDecomposition {segments : List Segment}
    (h : IsDecomposition (segments.flatMap Segment.sourceForm) segments) : BareApart segments := by
  induction segments with
  | nil => exact .nil
  | cons segment segments ih =>
    cases segment with
    | literal text =>
      obtain ⟨-, -, -, rest, heq, hrest⟩ := isDecomposition_literal_iff.1 h
      rw [List.flatMap_cons, Segment.sourceForm] at heq
      rw [← List.append_cancel_left heq] at hrest
      exact bareApart_literal_iff.2 (ih hrest)
    | placeholder p =>
      obtain ⟨slice, rest, heq, hplaced, hrest⟩ := isDecomposition_placeholder_iff.1 h
      rw [List.flatMap_cons, Segment.sourceForm] at heq
      obtain ⟨rfl, rfl⟩ := hplaced.eq_describe heq.symm
      refine bareApart_placeholder_iff.2 ⟨fun hpath => ?_, ih hrest⟩
      rw [← any_head?_sourceForm hrest.nonempty, ← head?_not_digit_iff]
      exact hplaced.head?_of_path_nil hpath

/-! ## Which templates read back -/

theorem exists_read_iff_readFrom {source : String} {segments : List Segment} (activity : Activity) :
    (∃ t, (ofValue (.text source) activity).1 = .ok t ∧ t.segments = segments) ↔
      readFrom 0 source.toList = .ok segments := by
  simp only [ofValue_text_ok_iff, read_eq_ok_iff]
  constructor
  · rintro ⟨t, ⟨-, hread⟩, rfl⟩
    exact hread
  · intro hread
    exact ⟨{ source, segments }, ⟨rfl, hread⟩, rfl⟩

/-- The source forms of a template that was read are read as its segments if and only if no
placeholder without members is directly followed by a literal that starts with a digit.  Every
placeholder can be described, and its description is read as that placeholder alone. -/
theorem sourceForm_reads_back_iff {source : String} {t : Template} {activity : Activity}
    (hread : (ofValue (.text source) activity).1 = .ok t) (later : Activity) :
    ((∃ u, (ofValue (.text t.sourceForm) later).1 = .ok u ∧ u.segments = t.segments) ↔
      BareApart t.segments) ∧
    ∀ p ∈ t.placeholders, Number.isWritable p.index = true ∧
      ∃ u, (ofValue (.text p.describe) later).1 = .ok u ∧ u.segments = [.placeholder p] := by
  have hsegments := (read_eq_ok_iff.1 (ofValue_text_ok_iff.1 hread)).2
  have hdecomposition := isDecomposition_of_readFrom hsegments
  have hall : ∀ p, .placeholder p ∈ t.segments → IsRead p :=
    fun p hp => isRead_of_isDecomposition hdecomposition (shortIndexes_of_readFrom hsegments) hp
  simp only [exists_read_iff_readFrom]
  refine ⟨⟨fun h => ?_, fun hapart => ?_⟩, fun p hp => ?_⟩
  · rw [sourceForm, String.toList_ofList] at h
    exact bareApart_of_isDecomposition (isDecomposition_of_readFrom h)
  · rw [sourceForm, String.toList_ofList]
    exact readFrom_sourceForm hdecomposition hall hapart 0
  · obtain ⟨segment, hsegment, hplaceholder⟩ := List.mem_filterMap.1 hp
    have hmem : Segment.placeholder p ∈ t.segments := by
      cases segment with
      | literal text => cases hplaceholder
      | placeholder q =>
        cases hplaceholder
        exact hsegment
    have hp := hall p hmem
    have hend : p.path = [] → ∀ d ∈ ([] : List Char).head?, Number.isDigit d = false := by simp
    have hdescribed := readFrom_describe hp hend 0
    refine ⟨isWritable_of_isRead hp, ?_⟩
    rw [List.append_nil, readFrom] at hdescribed
    exact hdescribed

/-- Leading zeros and braces that are not needed go, and the rest reads back; but braces that keep
an index apart from a digit are needed. -/
theorem sourceForm_reads_back_without_zeros :
    let t : Template := { source := "a??\x7b01.x\x7d2?\x7b03\x7d?4", segments :=
      [.literal "a?", .placeholder { index := 1, path := ["x"] }, .literal "2",
        .placeholder { index := 3 }, .placeholder { index := 4 }] }
    let glued : Template := { source := "?\x7b1\x7d0", segments :=
      [.placeholder { index := 1 }, .literal "0"] }
    ((ofValue (.text t.source) {}).1 = .ok t ∧ t.sourceForm = "a??\x7b1.x\x7d2?3?4" ∧
      ∃ u, (ofValue (.text t.sourceForm) {}).1 = .ok u ∧ u.segments = t.segments) ∧
    (ofValue (.text glued.source) {}).1 = .ok glued ∧ glued.sourceForm = "?10" ∧
      ¬ ∃ u, (ofValue (.text glued.sourceForm) {}).1 = .ok u ∧ u.segments = glued.segments := by
  intro t glued
  have hread : (ofValue (.text t.source) {}).1 = .ok t := by
    rw [ofValue_text_ok_iff]
    decide +kernel
  have hglued : (ofValue (.text glued.source) {}).1 = .ok glued := by
    rw [ofValue_text_ok_iff]
    decide +kernel
  have hapart : BareApart t.segments := by decide +kernel
  have hrunsOn : ¬ BareApart glued.segments := by decide +kernel
  have hform : t.sourceForm = "a??\x7b1.x\x7d2?3?4" := by decide +kernel
  have hgluedForm : glued.sourceForm = "?10" := by decide +kernel
  exact ⟨⟨hread, hform, (sourceForm_reads_back_iff hread {}).1.2 hapart⟩, hglued, hgluedForm,
    fun hback => hrunsOn ((sourceForm_reads_back_iff hglued {}).1.1 hback)⟩

end Template
end BoundUpdate
