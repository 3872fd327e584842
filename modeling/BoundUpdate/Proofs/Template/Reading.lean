import BoundUpdate.Proofs.Failure.Sequence
import BoundUpdate.Proofs.Template.Decomposition
import BoundUpdate.Template.Cache

namespace BoundUpdate
namespace Template

/-!
# Reading follows the grammar

The reader passes over a text as the scan of the grammar does: characters that
open nothing, and whole placeholders.  It goes through to the end of a well
formed text, and it stops one or two columns behind the question mark of the
leftmost malformed placeholder.  Indexes of more digits than are read are left
aside.
-/

/-! ## Steps of the reader -/

/-- The three forms of an opening text: a brace that is never closed, braces, a run of digits. -/
theorem Opens.forms {s : List Char} (h : Opens s) :
    (∃ body, s = '?' :: '{' :: body ∧ '}' ∉ body) ∨
    (∃ content rest, s = '?' :: '{' :: (content ++ '}' :: rest) ∧ '}' ∉ content) ∨
    ∃ d ds rest, s = '?' :: (d :: ds ++ rest) ∧ (∀ c ∈ d :: ds, Number.isDigit c = true) ∧
      ∀ c ∈ rest.head?, Number.isDigit c = false := by
  obtain ⟨c, tail, rfl, hc⟩ := h
  by_cases hbrace : c = '{'
  · subst hbrace
    by_cases hclosed : '}' ∈ tail
    · obtain ⟨content, rest, rfl, hcontent⟩ := List.eq_append_cons_of_mem hclosed
      exact .inr (.inl ⟨content, rest, rfl, hcontent⟩)
    · exact .inl ⟨tail, rfl, hclosed⟩
  · have hdigit : Number.isDigit c = true := by simpa [opensAfter, hbrace] using hc
    obtain ⟨ds, rest, rfl, hds, hrest⟩ := Text.exists_run Number.isDigit tail
    refine .inr (.inr ⟨c, ds, rest, rfl, ?_, hrest⟩)
    intro d hd
    rcases List.mem_cons.1 hd with rfl | hd
    · exact hdigit
    · exact hds d hd

theorem readFrom_of_not_opens {c : Char} {rest : List Char} (h : ¬ Opens (c :: rest))
    (column : Nat) :
    readFrom column (c :: rest) = (readFrom (column + 1) rest).map (prependChar c) := by
  -- the last equation of the reader is for all that its first two do not take
  cases rest with
  | nil =>
    rw [readFrom.eq_4]
    · intro body _ hbody
      cases hbody
    · intro d body _ hbody
      cases hbody
  | cons d body =>
    rw [opens_cons_cons_iff] at h
    by_cases hc : c = '?'
    · subst hc
      have hd : opensAfter d = false := by simpa using h
      obtain ⟨hbrace, hdigit⟩ : d ≠ '{' ∧ Number.isDigit d = false := by
        simpa [opensAfter] using hd
      rw [readFrom.eq_3 _ _ _ hbrace, if_neg (by simp [hdigit])]
    · rw [readFrom.eq_4]
      · intro _ heq _
        exact hc heq
      · intro _ _ heq _
        exact hc heq

theorem readFrom_unclosed {body : List Char} (h : '}' ∉ body) (column : Nat) :
    readFrom column ('?' :: '{' :: body) = .error (.malformed .unterminated (column + 1)) := by
  have hdrop : body.dropWhile (· != '}') = [] := by
    rw [List.dropWhile_eq_nil_iff]
    intro c hc
    have hne : c ≠ '}' := fun heq => h (heq ▸ hc)
    simpa using hne
  rw [readFrom]
  split
  · rfl
  · next hrest =>
    rw [hdrop] at hrest
    cases hrest

theorem readFrom_braced {content : List Char} (h : '}' ∉ content) (rest : List Char)
    (column : Nat) :
    readFrom column ('?' :: '{' :: (content ++ '}' :: rest)) = (do
      let p ← readContent (column + 2) content
      let segments ← readFrom (column + 3 + content.length) rest
      return .placeholder p :: segments) := by
  have hrun : ∀ c ∈ content, (c != '}') = true := by
    intro c hc
    have hne : c ≠ '}' := fun heq => h (heq ▸ hc)
    simpa using hne
  have hstop : ∀ c ∈ ('}' :: rest).head?, (c != '}') = false := by simp
  rw [readFrom]
  split
  · next hnil =>
    rw [Text.dropWhile_run hrun hstop] at hnil
    cases hnil
  · next hcons =>
    rw [Text.dropWhile_run hrun hstop] at hcons
    cases hcons
    rw [Text.takeWhile_run hrun hstop]

theorem readFrom_digits {d : Char} {ds rest : List Char}
    (h : ∀ c ∈ d :: ds, Number.isDigit c = true)
    (hrest : ∀ c ∈ rest.head?, Number.isDigit c = false) (column : Nat) :
    readFrom column ('?' :: (d :: ds ++ rest)) = (do
      let index ← readIndex (column + 1) (d :: ds)
      let segments ← readFrom (column + 1 + (d :: ds).length) rest
      return .placeholder { index } :: segments) := by
  have hd : Number.isDigit d = true := h d List.mem_cons_self
  have hds : ∀ c ∈ ds, Number.isDigit c = true := fun c hc => h c (List.mem_cons_of_mem d hc)
  rw [List.cons_append, readFrom.eq_3 _ _ _ (isDigit_ne_brace hd).1, if_pos hd]
  dsimp only
  rw [Text.takeWhile_run hds hrest, Text.dropWhile_run hds hrest]

/-! ## The content of a placeholder -/

theorem readIndex_of_isIndex {ds : List Char} (h : IsIndex ds)
    (hshort : ds.length ≤ Number.digitLimit) (column : Nat) :
    readIndex column ds = .ok (Number.readDigits ds) := by
  have hpos := h.pos
  rw [readIndex, if_neg (by omega), if_neg (by omega)]

/-- Within the limit, digits that are no index count zero. -/
theorem readIndex_cases {ds : List Char} (hne : ds ≠ [])
    (hdigits : ∀ d ∈ ds, Number.isDigit d = true) (hshort : ds.length ≤ Number.digitLimit)
    (column : Nat) :
    IsIndex ds ∨ readIndex column ds = .error (.malformed .zeroIndex column) := by
  by_cases hzero : Number.readDigits ds = 0
  · right
    rw [readIndex, if_neg (by omega), if_pos hzero]
  · exact .inl ⟨hne, hdigits, by omega⟩

theorem readPath_of_names {names : List (List Char)}
    (h : ∀ name ∈ names, Text.isIdentifier name = true) (column : Nat) (content : List Char) :
    readPath column content names = .ok (names.map String.ofList) := by
  induction names with
  | nil => rfl
  | cons name names ih =>
    have hrest := ih fun other hother => h other (List.mem_cons_of_mem name hother)
    rw [readPath, if_pos (h name List.mem_cons_self), hrest]
    rfl

/-- Parts that are no names are told with the column of the content. -/
theorem readPath_cases (column : Nat) (content : List Char) (parts : List (List Char)) :
    (∀ part ∈ parts, Text.isIdentifier part = true) ∨
      ∃ fault, readPath column content parts = .error (.malformed fault column) := by
  induction parts with
  | nil => exact .inl fun part hpart => absurd hpart List.not_mem_nil
  | cons part parts ih =>
    by_cases hname : Text.isIdentifier part = true
    · rcases ih with hnames | ⟨fault, hfault⟩
      · left
        intro other hother
        rcases List.mem_cons.1 hother with rfl | hother
        · exact hname
        · exact hnames other hother
      · right
        refine ⟨fault, ?_⟩
        rw [readPath, if_pos hname, hfault]
        rfl
    · exact .inr ⟨_, by rw [readPath, if_neg hname]⟩

/-- The content of a placeholder is told by its parts. -/
theorem readContent_of_splitOn {content ds : List Char} {parts : List (List Char)}
    (hne : content ≠ []) (hsplit : Text.splitOn '.' content = ds :: parts) (column : Nat) :
    readContent column content =
      if ds ≠ [] ∧ ds.all Number.isDigit then do
        let n ← readIndex column ds
        let members ← readPath column content parts
        return { index := n, path := members }
      else .error (.malformed (.notNumeric (String.ofList ds)) column) := by
  rw [readContent, if_neg hne, hsplit]

theorem readContent_join {ds : List Char} {names : List (List Char)} (hindex : IsIndex ds)
    (hnames : ∀ name ∈ names, Text.isIdentifier name = true)
    (hshort : ds.length ≤ Number.digitLimit) (column : Nat) :
    readContent column (Text.join '.' (ds :: names)) =
      .ok { index := Number.readDigits ds, path := names.map String.ofList } := by
  have hparts : ∀ part ∈ ds :: names, '.' ∉ part := by
    intro part hpart
    rcases List.mem_cons.1 hpart with rfl | hpart
    · exact hindex.not_mem (by decide)
    · exact Text.not_mem_of_isIdentifier (by decide +kernel) (by decide +kernel)
        (hnames part hpart)
  have hsplit := Text.splitOn_join ds names hparts
  have hne : Text.join '.' (ds :: names) ≠ [] := by
    intro hnil
    rw [hnil] at hsplit
    exact hindex.ne_nil (List.cons.inj hsplit).1.symm
  have hdigits : ds ≠ [] ∧ ds.all Number.isDigit = true :=
    ⟨hindex.ne_nil, List.all_eq_true.2 hindex.digits⟩
  rw [readContent_of_splitOn hne hsplit, if_pos hdigits, readIndex_of_isIndex hindex hshort,
    readPath_of_names hnames]
  rfl

/-- Within the limit, content that is no index with names is told with its own column or with that
of its brace. -/
theorem readContent_cases (column : Nat) {content : List Char}
    (hshort : ∀ ds parts, content = Text.join '.' (ds :: parts) →
      (∀ d ∈ ds, Number.isDigit d = true) → ds.length ≤ Number.digitLimit) :
    (∃ ds names, content = Text.join '.' (ds :: names) ∧ IsIndex ds ∧
        ∀ name ∈ names, Text.isIdentifier name = true) ∨
      ∃ fault c, readContent (column + 1) content = .error (.malformed fault c) ∧
        (c = column ∨ c = column + 1) := by
  by_cases hnil : content = []
  · right
    exact ⟨.empty, column, by rw [readContent, if_pos hnil, Nat.add_sub_cancel], .inl rfl⟩
  -- from here on in the order in which the reader checks: digits, index, members
  have hjoin := Text.join_splitOn '.' content
  cases hsplit : Text.splitOn '.' content with
  | nil => exact absurd hsplit (Text.splitOn_ne_nil '.' content)
  | cons ds parts =>
    rw [hsplit] at hjoin
    by_cases hdigits : ds ≠ [] ∧ ds.all Number.isDigit = true
    · have hall : ∀ d ∈ ds, Number.isDigit d = true := List.all_eq_true.1 hdigits.2
      have hlength := hshort ds parts hjoin.symm hall
      rcases readIndex_cases hdigits.1 hall hlength (column + 1) with hindex | hzero
      · rcases readPath_cases (column + 1) content parts with hnames | ⟨fault, hfault⟩
        · exact .inl ⟨ds, parts, hjoin.symm, hindex, hnames⟩
        · right
          refine ⟨fault, column + 1, ?_, .inr rfl⟩
          rw [readContent_of_splitOn hnil hsplit, if_pos hdigits,
            readIndex_of_isIndex hindex hlength, hfault]
          rfl
      · right
        refine ⟨.zeroIndex, column + 1, ?_, .inr rfl⟩
        rw [readContent_of_splitOn hnil hsplit, if_pos hdigits, hzero]
        rfl
    · right
      refine ⟨.notNumeric (String.ofList ds), column + 1, ?_, .inr rfl⟩
      rw [readContent_of_splitOn hnil hsplit, if_neg hdigits]

/-! ## Placeholders in a text -/

/-- A run of digits is read as far as it goes. -/
theorem readFrom_bare {ds rest : List Char} (hindex : IsIndex ds)
    (hshort : ds.length ≤ Number.digitLimit)
    (hrest : ∀ d ∈ rest.head?, Number.isDigit d = false) (column : Nat) :
    readFrom column ('?' :: (ds ++ rest)) =
      (readFrom (column + ('?' :: ds).length) rest).map
        (.placeholder { index := Number.readDigits ds } :: ·) := by
  obtain ⟨d, tail, rfl, -⟩ := hindex.exists_cons
  have hcolumn : column + ('?' :: d :: tail).length = column + 1 + (d :: tail).length := by
    rw [List.length_cons]
    omega
  rw [readFrom_digits hindex.digits hrest, readIndex_of_isIndex hindex hshort, hcolumn]
  cases readFrom (column + 1 + (d :: tail).length) rest <;> rfl

/-- An index with names is read up to its closing brace. -/
theorem readFrom_named {ds rest : List Char} {names : List (List Char)} (hindex : IsIndex ds)
    (hnames : ∀ name ∈ names, Text.isIdentifier name = true)
    (hshort : ds.length ≤ Number.digitLimit) (column : Nat) :
    readFrom column ('?' :: '{' :: (Text.join '.' (ds :: names) ++ '}' :: rest)) =
      (readFrom (column + ('?' :: '{' :: (Text.join '.' (ds :: names) ++ ['}'])).length) rest).map
        (.placeholder { index := Number.readDigits ds, path := names.map String.ofList } :: ·) := by
  have hcolumn : column + ('?' :: '{' :: (Text.join '.' (ds :: names) ++ ['}'])).length =
      column + 3 + (Text.join '.' (ds :: names)).length := by
    simp only [List.length_cons, List.length_append, List.length_nil]
    omega
  rw [readFrom_braced (not_mem_join_of_names hindex hnames), readContent_join hindex hnames hshort,
    hcolumn]
  cases readFrom (column + 3 + (Text.join '.' (ds :: names)).length) rest <;> rfl

theorem readFrom_placed {slice rest : List Char} {p : Placeholder} (h : Placed slice p rest)
    (hshort : ShortIndex (slice ++ rest)) (column : Nat) :
    readFrom column (slice ++ rest) =
      (readFrom (column + slice.length) rest).map (.placeholder p :: ·) := by
  obtain ⟨hspells, hdelimited⟩ := h
  cases hspells with
  | @bare ds hindex =>
    -- the slice is delimited, so the run of digits ends where the slice does
    have hrest := hindex.head?_of_delimited hdelimited
    exact readFrom_bare hindex (hshort ds (.bare hindex.digits hrest)) hrest column
  | @braced ds names hindex hnames =>
    have htext : ('?' :: '{' :: (Text.join '.' (ds :: names) ++ ['}'])) ++ rest =
        '?' :: '{' :: (Text.join '.' (ds :: names) ++ '}' :: rest) := by simp
    rw [htext] at hshort ⊢
    have hcontent := not_mem_join_of_names hindex hnames
    exact readFrom_named hindex hnames (hshort ds (.braced hindex.digits hcontent)) column

/-- Where an opening starts no placeholder, the reader stops one or two columns behind its start. -/
theorem readFrom_malformed {s : List Char} (hopens : Opens s) (hstart : ¬ StartsPlaceholder s)
    (hshort : ShortIndex s) (column : Nat) :
    ∃ fault c, readFrom column s = .error (.malformed fault c) ∧
      (c = column + 1 ∨ c = column + 2) := by
  rcases hopens.forms with ⟨body, rfl, hbody⟩ | ⟨content, rest, rfl, hcontent⟩ |
    ⟨d, ds, rest, rfl, hdigits, hrest⟩
  · exact ⟨.unterminated, column + 1, readFrom_unclosed hbody column, .inl rfl⟩
  · have hlimit : ∀ ds parts, content = Text.join '.' (ds :: parts) →
        (∀ d ∈ ds, Number.isDigit d = true) → ds.length ≤ Number.digitLimit := by
      rintro ds parts rfl hdigits
      exact hshort ds (.braced hdigits hcontent)
    rcases readContent_cases (column + 1) hlimit with
      ⟨ds, names, rfl, hindex, hnames⟩ | ⟨fault, c, hfault, hc⟩
    · exfalso
      refine hstart ⟨_, _, rest, ?_, .braced hindex hnames, delimited_brace ('?' :: '{' :: _) rest⟩
      simp
    · refine ⟨fault, c, ?_, hc⟩
      rw [readFrom_braced hcontent, hfault]
      rfl
  · have hlength := hshort (d :: ds) (.bare hdigits hrest)
    rcases readIndex_cases (List.cons_ne_nil d ds) hdigits hlength (column + 1) with
      hindex | hzero
    · exact absurd ⟨_, _, rest, rfl, .bare hindex, delimited_of_head? hrest⟩ hstart
    · refine ⟨.zeroIndex, column + 1, ?_, .inl rfl⟩
      rw [readFrom_digits hdigits hrest, hzero]
      rfl

/-- An index of more digits than the limit stops the reader before it looks at anything else of the
placeholder. -/
theorem readFrom_of_long {s ds : List Char} (hindex : IndexOf s ds)
    (hlong : Number.digitLimit < ds.length) (column : Nat) :
    readFrom column s = .error (.indexTooLong ds.length) := by
  obtain ⟨d, ds, rfl⟩ := List.exists_cons_of_length_pos (Nat.zero_lt_of_lt hlong)
  have hread : ∀ column, readIndex column (d :: ds) = .error (.indexTooLong (d :: ds).length) :=
    fun _ => if_pos hlong
  cases hindex with
  | bare hdigits hrest =>
    rw [readFrom_digits hdigits hrest, hread]
    rfl
  | @braced _ rest parts hdigits hcontent =>
    have hdot : '.' ∉ d :: ds := fun hmem => absurd (hdigits '.' hmem) (by decide)
    obtain ⟨others, hsplit⟩ := Text.exists_splitOn_join hdot parts
    have hne : Text.join '.' ((d :: ds) :: parts) ≠ [] := by
      intro hnil
      rw [hnil] at hsplit
      cases hsplit
    have hall : d :: ds ≠ [] ∧ (d :: ds).all Number.isDigit = true :=
      ⟨List.cons_ne_nil d ds, List.all_eq_true.2 hdigits⟩
    rw [readFrom_braced hcontent, readContent_of_splitOn hne hsplit, if_pos hall, hread]
    rfl

/-- A text that is read starts with no index of more digits than the limit. -/
theorem shortIndex_of_readFrom {column : Nat} {s : List Char} {segments : List Segment}
    (h : readFrom column s = .ok segments) : ShortIndex s := by
  intro ds hindex
  by_contra hlong
  rw [readFrom_of_long hindex (Nat.lt_of_not_le hlong)] at h
  cases h

/-! ## Texts as the scan meets them -/

/-- A text is empty, has a character in front that opens nothing, has a placeholder in front, or is
malformed at its start. -/
theorem scan_induction {motive : List Char → Prop} (nil : motive [])
    (literal : ∀ c rest, ¬ Opens (c :: rest) → motive rest → motive (c :: rest))
    (placeholder : ∀ slice p rest, Placed slice p rest → motive rest → motive (slice ++ rest))
    (malformed : ∀ s, Opens s → ¬ StartsPlaceholder s → motive s) (s : List Char) :
    motive s := by
  -- a placeholder is passed over at once, so the induction is on the length
  induction hn : s.length using Nat.strong_induction_on generalizing s with
  | _ n ih =>
    subst hn
    by_cases hopens : Opens s
    · by_cases hstart : StartsPlaceholder s
      · obtain ⟨slice, p, rest, rfl, hplaced⟩ := hstart
        have hpos := List.length_pos_of_ne_nil hplaced.spells.ne_nil
        have hlt : rest.length < (slice ++ rest).length := by
          rw [List.length_append]
          omega
        exact placeholder slice p rest hplaced (ih _ hlt rest rfl)
      · exact malformed s hopens hstart
    · cases s with
      | nil => exact nil
      | cons c rest => exact literal c rest hopens (ih _ (Nat.lt_succ_self _) rest rfl)

/-- A well formed text is read. -/
theorem exists_segments {s : List Char} (h : WellFormed s) (hshort : ShortIndexes s)
    (column : Nat) : ∃ segments, readFrom column s = .ok segments := by
  induction s using scan_induction generalizing column with
  | nil => exact ⟨[], by rw [readFrom]⟩
  | literal c rest hopens ih =>
    have hreach := reaches_tail hopens
    obtain ⟨segments, hrest⟩ := ih (h.of_reaches hreach) (hshort.of_reaches hreach) (column + 1)
    exact ⟨prependChar c segments, by rw [readFrom_of_not_opens hopens, hrest]; rfl⟩
  | placeholder slice p rest hplaced ih =>
    have hreach := reaches_behind hplaced
    obtain ⟨segments, hrest⟩ :=
      ih (h.of_reaches hreach) (hshort.of_reaches hreach) (column + slice.length)
    exact ⟨.placeholder p :: segments, by rw [readFrom_placed hplaced hshort.start, hrest]; rfl⟩
  | malformed s hopens hstart => exact absurd (h 0 s .start hopens) hstart

/-- What stops the reader behind a stretch that the scan passes over stops it before that, too. -/
theorem Reaches.readFrom_error {s r : List Char} {q : Nat} (h : Reaches s q r)
    (hshort : ShortIndexes s) {column : Nat} {e : ReadError}
    (herror : readFrom (column + q) r = .error e) : readFrom column s = .error e := by
  induction h with
  | start => exact herror
  | literal _ hopens ih =>
    apply ih
    rw [readFrom_of_not_opens hopens, Nat.add_assoc, herror]
    rfl
  | placeholder hreach hplaced ih =>
    apply ih
    rw [readFrom_placed hplaced (hshort _ _ hreach), Nat.add_assoc, herror]
    rfl

/-- The reader stops one or two columns behind the start of a malformed placeholder. -/
theorem readFrom_of_malformedAt {s : List Char} {q : Nat} (h : MalformedAt s q)
    (hshort : ShortIndexes s) :
    ∃ fault c, readFrom 0 s = .error (.malformed fault c) ∧ (c = q + 1 ∨ c = q + 2) := by
  obtain ⟨r, hreach, hopens, hstart⟩ := h
  obtain ⟨fault, c, herror, hc⟩ := readFrom_malformed hopens hstart (hshort q r hreach) q
  exact ⟨fault, c, hreach.readFrom_error hshort (by rw [Nat.zero_add]; exact herror), hc⟩

/-- A text that is read is read behind every stretch that the scan passes over. -/
theorem Reaches.readFrom_ok {s r : List Char} {q : Nat} (h : Reaches s q r) {column : Nat}
    {segments : List Segment} (hread : readFrom column s = .ok segments) :
    ∃ others, readFrom (column + q) r = .ok others := by
  induction h with
  | start => exact ⟨segments, hread⟩
  | literal _ hopens ih =>
    obtain ⟨others, hothers⟩ := ih
    rw [readFrom_of_not_opens hopens] at hothers
    obtain ⟨rest, hrest, _⟩ := except_map_ok hothers
    exact ⟨rest, hrest⟩
  | placeholder _ hplaced ih =>
    obtain ⟨others, hothers⟩ := ih
    rw [readFrom_placed hplaced (shortIndex_of_readFrom hothers)] at hothers
    obtain ⟨rest, hrest, _⟩ := except_map_ok hothers
    rw [Nat.add_assoc] at hrest
    exact ⟨rest, hrest⟩

/-- No index in a text that is read has more digits than the limit. -/
theorem shortIndexes_of_readFrom {column : Nat} {s : List Char} {segments : List Segment}
    (h : readFrom column s = .ok segments) : ShortIndexes s := by
  intro q r hreach
  obtain ⟨others, hothers⟩ := hreach.readFrom_ok h
  exact shortIndex_of_readFrom hothers

/-- A text that is read is well formed. -/
theorem wellFormed_of_readFrom {column : Nat} {s : List Char} {segments : List Segment}
    (h : readFrom column s = .ok segments) : WellFormed s := by
  intro q r hreach hopens
  by_contra hstart
  obtain ⟨others, hothers⟩ := hreach.readFrom_ok h
  obtain ⟨fault, c, herror, _⟩ :=
    readFrom_malformed hopens hstart (shortIndex_of_readFrom hothers) (column + q)
  rw [herror] at hothers
  cases hothers

end Template
end BoundUpdate
