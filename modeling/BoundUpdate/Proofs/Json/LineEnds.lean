import BoundUpdate.Json.Reader
import BoundUpdate.Proofs.Failure.Sequence
import BoundUpdate.Text.Utf8
import Mathlib.Data.List.Find

namespace BoundUpdate

/-!
# Line ends of JSON texts

A line end stands between the parts of a JSON text and never inside one, and it
is a blank there.  A text that is read at all is therefore read as the same
value when its line ends are unified, although the places in it move.
-/

namespace Text

variable {s rest : List Char}

theorem unifyLines_cons {c : Char} (h : c ≠ '\r') (s : List Char) :
    unifyLines (c :: s) = c :: unifyLines s := by
  rw [unifyLines] <;> simp [h]

/-- What starts with no line end started so before. -/
theorem exists_cons_of_unifyLines {c : Char} (hc : c ≠ '\n') (h : unifyLines s = c :: rest) :
    ∃ front, s = c :: front ∧ rest = unifyLines front := by
  unfold unifyLines at h
  split at h
  · cases h
  · exact absurd (List.cons.inj h).1.symm hc
  · exact absurd (List.cons.inj h).1.symm hc
  · obtain ⟨rfl, rfl⟩ := List.cons.inj h
    exact ⟨_, rfl, rfl⟩

theorem ne_cons_of_unifyLines {c : Char} (hc : c ≠ '\n') (h : ∀ rest, s ≠ c :: rest)
    (rest : List Char) : unifyLines s ≠ c :: rest := by
  intro hs
  obtain ⟨front, rfl, -⟩ := exists_cons_of_unifyLines hc hs
  exact h front rfl

/-- A text that starts with a return has a feed there when its line ends are unified. -/
theorem exists_unifyLines_return (rest : List Char) :
    ∃ more, unifyLines ('\r' :: rest) = '\n' :: more := by
  unfold unifyLines
  split
  · next heq => cases heq
  · exact ⟨_, rfl⟩
  · exact ⟨_, rfl⟩
  · next hreturn heq => exact absurd (List.cons.inj heq).1.symm hreturn

theorem unifyLines_append {word : List Char} (h : '\r' ∉ word) (rest : List Char) :
    unifyLines (word ++ rest) = word ++ unifyLines rest := by
  induction word with
  | nil => rfl
  | cons c word ih =>
    obtain ⟨hc, hword⟩ := List.ne_and_not_mem_of_not_mem_cons h
    rw [List.cons_append, unifyLines_cons hc.symm, ih hword, List.cons_append]

/-- A word without line ends stands at the same places. -/
theorem isPrefix_unifyLines_iff {word : List Char} (hr : '\r' ∉ word) (hn : '\n' ∉ word) :
    word <+: unifyLines s ↔ word <+: s := by
  constructor
  · intro h
    induction word generalizing s with
    | nil => exact List.nil_prefix
    | cons c word ih =>
      obtain ⟨hcr, hr⟩ := List.ne_and_not_mem_of_not_mem_cons hr
      obtain ⟨hcn, hn⟩ := List.ne_and_not_mem_of_not_mem_cons hn
      obtain ⟨tail, htail⟩ := h
      obtain ⟨front, rfl, hfront⟩ := exists_cons_of_unifyLines hcn.symm htail.symm
      exact List.cons_prefix_cons.2 ⟨rfl, ih hr hn ⟨tail, hfront⟩⟩
  · rintro ⟨tail, rfl⟩
    rw [unifyLines_append hr]
    exact List.prefix_append _ _

theorem unifyLines_eq_nil_iff : unifyLines s = [] ↔ s = [] := by
  unfold unifyLines
  split <;> simp

theorem length_unifyLines_le (s : List Char) : (unifyLines s).length ≤ s.length := by
  fun_induction unifyLines s <;> simp <;> omega

/-- A class that tells line ends not apart is left at the same place. -/
theorem dropWhile_unifyLines {p : Char → Bool} (h : p '\r' = p '\n') (s : List Char) :
    (unifyLines s).dropWhile p = unifyLines (s.dropWhile p) := by
  fun_induction unifyLines s with
  | case1 => rfl
  | case2 rest ih => cases hp : p '\n' <;> simp [h, hp, ih, unifyLines]
  | case3 rest hrest ih =>
    have hfeed : unifyLines ('\r' :: rest) = '\n' :: unifyLines rest := by
      rw [unifyLines]
      exact hrest
    cases hp : p '\n' <;> simp [h, hp, ih, hfeed]
  | case4 c rest hpair hc ih =>
    have hc : c ≠ '\r' := fun heq => hc heq
    cases hp : p c <;> simp [hp, ih, unifyLines_cons hc]

/-- A class without line ends takes the same characters. -/
theorem takeWhile_unifyLines {p : Char → Bool} (hr : p '\r' = false) (hn : p '\n' = false)
    (s : List Char) : (unifyLines s).takeWhile p = s.takeWhile p := by
  fun_induction unifyLines s with
  | case1 => rfl
  | case2 rest ih => simp [hr, hn]
  | case3 rest hrest ih => simp [hr, hn]
  | case4 c rest hpair hc ih => rw [List.takeWhile_cons, List.takeWhile_cons, ih]

end Text

namespace Json

open Text

variable {α β : Type} {s rest : List Char}

/-! ## Reading alike -/

/-- Two readers, the second one of the text with unified line ends, that answer the same value and
stop at the same character; where the first one fails, nothing is said. -/
def Alike (x y : Except ReadError (Taken α)) : Prop :=
  ∀ a position rest, x = .ok (a, position, rest) →
    ∃ moved, y = .ok (a, moved, unifyLines rest)

theorem Alike.of_error {e : ReadError} {y : Except ReadError (Taken α)} :
    Alike (.error e) y := fun _ _ _ h => nomatch h

theorem Alike.of_ok (a : α) (position moved : Nat) (rest : List Char) :
    Alike (.ok (a, position, rest)) (.ok (a, moved, unifyLines rest)) := by
  rintro a position rest ⟨⟩
  exact ⟨moved, rfl⟩

/-- The levels that are left do not depend on line ends. -/
theorem Alike.enter {nesting : Nat} {e : ReadError} {f g : Nat → Except ReadError (Taken α)}
    (h : ∀ nesting, Alike (f nesting) (g nesting)) :
    Alike (Nesting.enter e nesting >>= f) (Nesting.enter e nesting >>= g) := by
  cases nesting with
  | zero => exact Alike.of_error
  | succ nesting => exact h nesting

theorem Alike.bind {x y : Except ReadError (Taken α)}
    {f g : Taken α → Except ReadError (Taken β)} (h : Alike x y)
    (hnext : ∀ a position moved rest,
      Alike (f (a, position, rest)) (g (a, moved, unifyLines rest))) :
    Alike (x >>= f) (y >>= g) := by
  cases x with
  | error e => exact Alike.of_error
  | ok taken =>
    obtain ⟨a, position, rest⟩ := taken
    obtain ⟨moved, rfl⟩ := h a position rest rfl
    exact hnext a position moved rest

/-! ## Blanks -/

theorem skipBlanks_eq (position : Nat) (s : List Char) :
    skipBlanks position s = (position + (s.takeWhile isBlank).length, s.dropWhile isBlank) := by
  induction s generalizing position with
  | nil => rfl
  | cons c rest ih =>
    cases hc : isBlank c
    · simp [skipBlanks, hc]
    · simp [skipBlanks, hc, ih]
      omega

theorem dropWhile_isBlank_unifyLines (s : List Char) :
    (unifyLines s).dropWhile isBlank = unifyLines (s.dropWhile isBlank) :=
  dropWhile_unifyLines (by decide) s

theorem filter_unifyLines (s : List Char) :
    ((unifyLines s).filter fun c => !isBlank c) = s.filter fun c => !isBlank c := by
  have hr : isBlank '\r' = true := by decide
  have hn : isBlank '\n' = true := by decide
  fun_induction unifyLines s with
  | case1 => rfl
  | case2 rest ih => simp [ih, hr, hn]
  | case3 rest hrest ih => simp [ih, hr, hn]
  | case4 c rest hpair hc ih => simp [List.filter_cons, ih]

/-! ## Quoted texts -/

theorem unifyLines_of_fourDigits {a b c d : Char} {n : Nat} (h : fourDigits? a b c d = some n)
    (rest : List Char) :
    unifyLines (a :: b :: c :: d :: rest) = a :: b :: c :: d :: unifyLines rest := by
  have hr : hexValue? '\r' = none := by decide
  have hne : a ≠ '\r' ∧ b ≠ '\r' ∧ c ≠ '\r' ∧ d ≠ '\r' := by
    refine ⟨?_, ?_, ?_, ?_⟩ <;> rintro rfl <;> simp [fourDigits?, hr] at h
  rw [unifyLines_cons hne.1, unifyLines_cons hne.2.1, unifyLines_cons hne.2.2.1,
    unifyLines_cons hne.2.2.2]

/-- A second escape behind a first one stood there before. -/
theorem exists_escape_of_unifyLines {a b c d x : Char} {more : List Char}
    (h : unifyLines s = '\\' :: 'u' :: a :: b :: c :: d :: x :: more) :
    ∃ a b c d x more, s = '\\' :: 'u' :: a :: b :: c :: d :: x :: more := by
  obtain ⟨first, rfl, hfirst⟩ := exists_cons_of_unifyLines (by decide) h
  obtain ⟨second, rfl, hsecond⟩ := exists_cons_of_unifyLines (by decide) hfirst.symm
  have hlength := length_unifyLines_le second
  rw [← hsecond] at hlength
  match second, hlength with
  | a :: b :: c :: d :: x :: more, _ => exact ⟨a, b, c, d, x, more, rfl⟩

/-- Whether a second code unit belongs to a first one does not depend on line ends. -/
theorem pairedCode_unifyLines {position n code width : Nat} {more : List Char} (moved : Nat)
    (h : pairedCode position n more = .ok (code, width)) :
    pairedCode moved n (unifyLines more) = .ok (code, width) ∧
      (unifyLines more).drop width = unifyLines (more.drop width) := by
  unfold pairedCode at h
  split at h
  · next a b c d x rest hhigh =>
    split at h
    · cases h
    · next low hlow =>
      have hunify : unifyLines ('\\' :: 'u' :: a :: b :: c :: d :: x :: rest) =
          '\\' :: 'u' :: a :: b :: c :: d :: unifyLines (x :: rest) := by
        rw [unifyLines_cons (by decide), unifyLines_cons (by decide),
          unifyLines_of_fourDigits hlow]
      obtain ⟨y, more, hmore⟩ : ∃ y more, unifyLines (x :: rest) = y :: more :=
        List.exists_cons_of_ne_nil (mt unifyLines_eq_nil_iff.1 (by simp))
      rw [hunify]
      constructor
      · simp only [pairedCode, hhigh, hmore, hlow]
        exact h
      · split at h
        · rw [← (Prod.mk.inj (Except.ok.inj h)).2]
          rfl
        · rw [← (Prod.mk.inj (Except.ok.inj h)).2, List.drop_zero, List.drop_zero, hunify]
  · next hno =>
    cases h
    refine ⟨?_, rfl⟩
    unfold pairedCode
    split
    · next a b c d x rest hhigh hmore =>
      obtain ⟨a, b, c, d, x, rest, rfl⟩ := exists_escape_of_unifyLines hmore
      exact (hno _ _ _ _ _ _ hhigh rfl).elim
    · rfl

theorem ne_return_of_shortEscape {c x : Char} (h : shortEscape? c = some x) : c ≠ '\r' := by
  rintro rfl
  have hr : shortEscape? '\r' = none := by decide
  rw [hr] at h
  cases h

theorem takeQuoted_cons {c : Char} (hquote : c ≠ '"') (hescape : c ≠ '\\')
    (hc : ¬ c.toNat < 0x20) (start position : Nat) (rest : List Char) :
    takeQuoted start position (c :: rest) = (do
      let (s, last, rest) ← takeQuoted start (position + 1) rest
      return (c :: s, last, rest)) := by
  rw [takeQuoted]
  · rw [if_neg hc]
  all_goals simp [hquote, hescape]

/-- Line ends do not stand in quoted texts, so the same characters are read. -/
theorem takeQuoted_alike (start position start' moved : Nat) (s : List Char) :
    Alike (takeQuoted start position s) (takeQuoted start' moved (unifyLines s)) := by
  fun_induction takeQuoted start position s generalizing moved with
  | case1 | case3 | case4 | case5 | case7 | case9 | case10 => exact Alike.of_error
  | case2 position rest =>
    rw [unifyLines_cons (by decide), takeQuoted]
    exact Alike.of_ok [] _ _ rest
  | case6 position a b c d more hmore n hn ih =>
    have hmore' : unifyLines more ≠ [] := mt unifyLines_eq_nil_iff.1 hmore
    rw [unifyLines_cons (by decide), unifyLines_cons (by decide), unifyLines_of_fourDigits hn,
      takeQuoted]
    simp only [hmore', if_false, hn]
    cases hpair : pairedCode (position + 6) n more with
    | error e => exact Alike.of_error
    | ok pair =>
      obtain ⟨code, width⟩ := pair
      obtain ⟨hpair', hdrop⟩ := pairedCode_unifyLines (moved + 6) hpair
      rw [hpair']
      change Alike (takeQuoted start (position + 6 + width) (more.drop width) >>= _)
        (takeQuoted start' (moved + 6 + width) ((unifyLines more).drop width) >>= _)
      rw [hdrop]
      exact (ih width _).bind fun s position moved rest => Alike.of_ok _ position moved rest
  | case8 position c rest hlong hshort x hx ih =>
    rw [unifyLines_cons (by decide), unifyLines_cons (ne_return_of_shortEscape hx), takeQuoted]
    · simp only [hx]
      exact (ih _).bind fun s position moved rest => Alike.of_ok _ position moved rest
    · exact fun _ _ _ _ _ hu _ => hshort hu
    · exact hshort
  | case11 position c rest hquote hend _ _ hescape hc ih =>
    have hbackslash : c ≠ '\\' := by
      rintro rfl
      cases rest with
      | nil => exact hend rfl rfl
      | cons d rest => exact hescape d rest rfl rfl
    have hreturn : c ≠ '\r' := by rintro rfl; exact hc (by decide)
    rw [unifyLines_cons hreturn, takeQuoted_cons hquote hbackslash hc]
    exact (ih _).bind fun s position moved rest => Alike.of_ok _ position moved rest

/-! ## Numbers and words -/

theorem isDigit_return : Number.isDigit '\r' = false := by decide

theorem isDigit_feed : Number.isDigit '\n' = false := by decide

theorem takeWhile_isDigit_unifyLines (s : List Char) :
    (unifyLines s).takeWhile Number.isDigit = s.takeWhile Number.isDigit :=
  takeWhile_unifyLines isDigit_return isDigit_feed s

theorem dropWhile_isDigit_unifyLines (s : List Char) :
    (unifyLines s).dropWhile Number.isDigit = unifyLines (s.dropWhile Number.isDigit) :=
  dropWhile_unifyLines (isDigit_return.trans isDigit_feed.symm) s

theorem ne_return_of_isDigit {d : Char} (h : Number.isDigit d = true) : d ≠ '\r' := by
  rintro rfl
  rw [isDigit_return] at h
  cases h

theorem ne_feed_of_isDigit {d : Char} (h : Number.isDigit d = true) : d ≠ '\n' := by
  rintro rfl
  rw [isDigit_feed] at h
  cases h

theorem takeFraction_of_not (h : ¬ ∃ d rest, Number.isDigit d = true ∧ s = '.' :: d :: rest) :
    takeFraction s = ([], s) := by
  unfold takeFraction
  split
  · next d rest =>
    rw [if_neg fun hd => h ⟨d, rest, hd, rfl⟩]
  · rfl

theorem takeFraction_unifyLines (s : List Char) :
    takeFraction (unifyLines s) = ((takeFraction s).1, unifyLines (takeFraction s).2) := by
  by_cases h : ∃ d rest, Number.isDigit d = true ∧ s = '.' :: d :: rest
  · obtain ⟨d, rest, hd, rfl⟩ := h
    rw [unifyLines_cons (by decide), unifyLines_cons (ne_return_of_isDigit hd)]
    simp only [takeFraction, hd, if_true, takeWhile_isDigit_unifyLines,
      dropWhile_isDigit_unifyLines]
  · rw [takeFraction_of_not h, takeFraction_of_not]
    rintro ⟨d, rest, hd, hs⟩
    obtain ⟨front, rfl, hfront⟩ := exists_cons_of_unifyLines (by decide) hs
    obtain ⟨tail, rfl, -⟩ := exists_cons_of_unifyLines (ne_feed_of_isDigit hd) hfront.symm
    exact h ⟨d, tail, hd, rfl⟩

theorem takeSign_unifyLines (s : List Char) :
    takeSign (unifyLines s) = ((takeSign s).1, unifyLines (takeSign s).2) := by
  unfold takeSign
  split
  · next rest hs =>
    obtain ⟨front, rfl, rfl⟩ := exists_cons_of_unifyLines (by decide) hs
    rfl
  · next rest hs =>
    obtain ⟨front, rfl, rfl⟩ := exists_cons_of_unifyLines (by decide) hs
    rfl
  · next hplus hminus =>
    split
    · exact absurd (unifyLines_cons (by decide) _) (hplus _)
    · exact absurd (unifyLines_cons (by decide) _) (hminus _)
    · rfl

theorem takePower_of_not {c : Char} (h : ¬ (c = 'e' ∨ c = 'E')) (rest : List Char) :
    takePower (c :: rest) = ([], c :: rest) := if_neg h

theorem takePower_unifyLines (s : List Char) :
    takePower (unifyLines s) = ((takePower s).1, unifyLines (takePower s).2) := by
  cases s with
  | nil => rfl
  | cons c rest =>
    by_cases hreturn : c = '\r'
    · subst hreturn
      obtain ⟨more, hmore⟩ := exists_unifyLines_return rest
      rw [takePower_of_not (by decide), hmore, takePower_of_not (by decide)]
    · rw [unifyLines_cons hreturn]
      by_cases hpower : c = 'e' ∨ c = 'E'
      · simp only [takePower, hpower, if_true, takeSign_unifyLines, takeWhile_isDigit_unifyLines,
          dropWhile_isDigit_unifyLines]
        split
        · rw [unifyLines_cons hreturn]
        · rfl
      · rw [takePower_of_not hpower, takePower_of_not hpower, unifyLines_cons hreturn]

theorem takeWhole_cons {d : Char} (h : d ≠ '0') (rest : List Char) :
    takeWhole (d :: rest) = if Number.isDigit d then
      some (d :: rest.takeWhile Number.isDigit, rest.dropWhile Number.isDigit) else none := by
  rw [takeWhole]
  exact h

theorem takeWhole_unifyLines (s : List Char) :
    takeWhole (unifyLines s) = (takeWhole s).map fun taken => (taken.1, unifyLines taken.2) := by
  cases s with
  | nil => rfl
  | cons d rest =>
    by_cases hzero : d = '0'
    · subst hzero
      rw [unifyLines_cons (by decide), takeWhole, takeWhole]
      rfl
    · by_cases hreturn : d = '\r'
      · subst hreturn
        obtain ⟨more, hmore⟩ := exists_unifyLines_return rest
        rw [hmore, takeWhole_cons (by decide), takeWhole_cons (by decide)]
        rfl
      · rw [unifyLines_cons hreturn, takeWhole_cons hzero, takeWhole_cons hzero,
          takeWhile_isDigit_unifyLines, dropWhile_isDigit_unifyLines]
        split <;> rfl

theorem takeUnsigned_unifyLines (negative : Bool) (s : List Char) :
    takeUnsigned negative (unifyLines s) =
      (takeUnsigned negative s).map fun taken => (taken.1, taken.2.1, unifyLines taken.2.2) := by
  unfold takeUnsigned
  rw [takeWhole_unifyLines, Option.map_map, Option.map_map]
  congr 1
  funext taken
  simp only [Function.comp_apply, takeFraction_unifyLines, takePower_unifyLines]
  split <;> rfl

/-- A number whose sign is known; `taken` is the number without it. -/
def signed (position sign : Nat) (taken : Option (Except ReadError Value × Nat × List Char)) :
    Except ReadError (Taken Value) :=
  match taken with
  | none => expected "Expecting value" position
  | some (v, size, rest) => v.map fun v => (v, position + sign + size, rest)

theorem takeNumber_minus (position : Nat) (rest : List Char) :
    takeNumber position ('-' :: rest) = signed position 1 (takeUnsigned true rest) := rfl

theorem takeNumber_of_not (h : ∀ rest, s ≠ '-' :: rest) (position : Nat) :
    takeNumber position s = signed position 0 (takeUnsigned false s) := by
  unfold takeNumber
  split
  next sign digits heq =>
    split at heq
    · next rest => exact absurd rfl (h rest)
    · cases heq
      rfl

theorem signed_alike (position moved sign : Nat) (negative : Bool) (s : List Char) :
    Alike (signed position sign (takeUnsigned negative s))
      (signed moved sign (takeUnsigned negative (unifyLines s))) := by
  rw [takeUnsigned_unifyLines]
  cases takeUnsigned negative s with
  | none => exact Alike.of_error
  | some taken =>
    obtain ⟨v, size, rest⟩ := taken
    cases v with
    | error e => exact Alike.of_error
    | ok v => exact Alike.of_ok v _ _ rest

theorem takeNumber_alike (position moved : Nat) (s : List Char) :
    Alike (takeNumber position s) (takeNumber moved (unifyLines s)) := by
  by_cases h : ∃ rest, s = '-' :: rest
  · obtain ⟨rest, rfl⟩ := h
    rw [unifyLines_cons (by decide), takeNumber_minus, takeNumber_minus]
    exact signed_alike position moved 1 true rest
  · rw [takeNumber_of_not fun rest hs => h ⟨rest, hs⟩, takeNumber_of_not]
    · exact signed_alike position moved 0 false s
    · exact ne_cons_of_unifyLines (by decide) fun rest hs => h ⟨rest, hs⟩

theorem words_no_lineEnds : ∀ word ∈ words, '\r' ∉ word.1 ∧ '\n' ∉ word.1 := by decide

theorem find?_words_unifyLines (s : List Char) :
    (words.find? fun word => word.1.isPrefixOf (unifyLines s)) =
      words.find? fun word => word.1.isPrefixOf s := by
  refine List.find?_congr fun word hword => ?_
  obtain ⟨hr, hn⟩ := words_no_lineEnds word hword
  rw [Bool.eq_iff_iff, List.isPrefixOf_iff_prefix, List.isPrefixOf_iff_prefix,
    isPrefix_unifyLines_iff hr hn]

/-- A value at the front of a text that is a word or a number. -/
def takePlain (position : Nat) (s : List Char) : Except ReadError (Taken Value) :=
  match takeWord? position s with
  | some taken => .ok taken
  | none => takeNumber position s

theorem takePlain_alike (position moved : Nat) (s : List Char) :
    Alike (takePlain position s) (takePlain moved (unifyLines s)) := by
  unfold takePlain takeWord?
  rw [find?_words_unifyLines]
  cases hfind : words.find? fun word => word.1.isPrefixOf s with
  | none => exact takeNumber_alike position moved s
  | some word =>
    obtain ⟨hr, -⟩ := words_no_lineEnds word (List.mem_of_find?_eq_some hfind)
    have hstarts := List.find?_some hfind
    obtain ⟨rest, rfl⟩ := List.isPrefixOf_iff_prefix.1 hstarts
    simp only [Option.map_some, unifyLines_append hr, List.drop_left]
    exact Alike.of_ok _ _ _ rest

/-! ## Values -/

theorem takeValue_plain {nesting fuel position : Nat}
    (h : ∀ c rest, s = c :: rest → c ≠ '"' ∧ c ≠ '\x7b' ∧ c ≠ '[') :
    takeValue nesting (fuel + 1) position s = takePlain position s := by
  rw [takeValue.eq_def]
  split
  · next heq => cases heq
  · next n heq =>
    cases heq
    split
    · exact absurd rfl (h _ _ rfl).1
    · exact absurd rfl (h _ _ rfl).2.1
    · exact absurd rfl (h _ _ rfl).2.2
    · rfl

/-- All three readers read alike, however many levels are left. -/
structure ReadersAlike (fuel : Nat) : Prop where
  value : ∀ nesting position moved s,
    Alike (takeValue nesting fuel position s) (takeValue nesting fuel moved (unifyLines s))
  items : ∀ nesting position moved s,
    Alike (takeItems nesting fuel position s) (takeItems nesting fuel moved (unifyLines s))
  entries : ∀ nesting position moved entries s,
    Alike (takeEntries nesting fuel position entries s)
      (takeEntries nesting fuel moved entries (unifyLines s))

namespace ReadersAlike

variable {fuel : Nat}

theorem takeItems_alike (h : ReadersAlike fuel) (nesting position moved : Nat) (s : List Char) :
    Alike (takeItems nesting (fuel + 1) position s)
      (takeItems nesting (fuel + 1) moved (unifyLines s)) := by
  rw [takeItems, takeItems]
  refine (h.value nesting position moved s).bind fun v position moved rest => ?_
  simp only [skipBlanks_eq, dropWhile_isBlank_unifyLines]
  generalize rest.dropWhile isBlank = found
  split
  · rw [unifyLines_cons (by decide)]
    exact Alike.of_ok _ _ _ _
  · rw [unifyLines_cons (by decide)]
    simp only [dropWhile_isBlank_unifyLines]
    exact (h.items _ _ _ _).bind fun items position moved rest => Alike.of_ok _ _ _ rest
  · exact Alike.of_error

theorem takeEntries_alike (h : ReadersAlike fuel) (nesting position moved : Nat)
    (entries : Value.Entries) (s : List Char) :
    Alike (takeEntries nesting (fuel + 1) position entries s)
      (takeEntries nesting (fuel + 1) moved entries (unifyLines s)) := by
  rw [takeEntries.eq_def]
  simp only
  split
  · next rest =>
    rw [unifyLines_cons (by decide), takeEntries]
    refine (takeQuoted_alike _ _ _ _ rest).bind fun name position moved rest => ?_
    simp only [skipBlanks_eq, dropWhile_isBlank_unifyLines]
    generalize rest.dropWhile isBlank = found
    split
    · rw [unifyLines_cons (by decide)]
      simp only [dropWhile_isBlank_unifyLines]
      refine (h.value _ _ _ _).bind fun v position moved rest => ?_
      simp only [dropWhile_isBlank_unifyLines]
      generalize rest.dropWhile isBlank = found
      split
      · rw [unifyLines_cons (by decide)]
        exact Alike.of_ok _ _ _ _
      · rw [unifyLines_cons (by decide)]
        simp only [dropWhile_isBlank_unifyLines]
        exact h.entries _ _ _ _ _
      · exact Alike.of_error
    · exact Alike.of_error
  · exact Alike.of_error

theorem takeValue_alike (h : ReadersAlike fuel) (nesting position moved : Nat) (s : List Char) :
    Alike (takeValue nesting (fuel + 1) position s)
      (takeValue nesting (fuel + 1) moved (unifyLines s)) := by
  -- only texts, objects and arrays are read by the readers of the hypothesis
  by_cases hplain : ∀ c rest, s = c :: rest → c ≠ '"' ∧ c ≠ '\x7b' ∧ c ≠ '['
  · rw [takeValue_plain hplain, takeValue_plain]
    · exact takePlain_alike position moved s
    · intro c rest hs
      by_cases hfeed : c = '\n'
      · subst hfeed
        decide
      · obtain ⟨front, rfl, -⟩ := exists_cons_of_unifyLines hfeed hs
        exact hplain c front rfl
  · rw [takeValue.eq_def]
    simp only
    split
    · next rest =>
      rw [unifyLines_cons (by decide), takeValue]
      exact (takeQuoted_alike _ _ _ _ rest).bind fun text position moved rest =>
        Alike.of_ok _ position moved rest
    · next rest =>
      rw [unifyLines_cons (by decide), takeValue]
      refine Alike.enter fun nesting => ?_
      simp only [skipBlanks_eq, dropWhile_isBlank_unifyLines]
      generalize rest.dropWhile isBlank = found
      split
      · rw [unifyLines_cons (by decide)]
        exact Alike.of_ok _ _ _ _
      · next hopen =>
        split
        · next more hmore =>
          exact absurd hmore (ne_cons_of_unifyLines (by decide) (fun rest => hopen rest) more)
        · exact (h.entries _ _ _ _ _).bind fun entries position moved rest =>
            Alike.of_ok _ position moved rest
    · next rest =>
      rw [unifyLines_cons (by decide), takeValue]
      refine Alike.enter fun nesting => ?_
      simp only [skipBlanks_eq, dropWhile_isBlank_unifyLines]
      generalize rest.dropWhile isBlank = found
      split
      · rw [unifyLines_cons (by decide)]
        exact Alike.of_ok _ _ _ _
      · next hopen =>
        split
        · next more hmore =>
          exact absurd hmore (ne_cons_of_unifyLines (by decide) (fun rest => hopen rest) more)
        · exact (h.items _ _ _ _).bind fun items position moved rest =>
            Alike.of_ok _ position moved rest
    · next hquote hbrace hbracket =>
      refine absurd (fun c rest hs => ⟨?_, ?_, ?_⟩) hplain
      · rintro rfl; exact hquote rest hs
      · rintro rfl; exact hbrace rest hs
      · rintro rfl; exact hbracket rest hs

end ReadersAlike

theorem readersAlike (fuel : Nat) : ReadersAlike fuel := by
  -- the readers call each other with one step less, so all three go through one induction
  induction fuel with
  | zero =>
    refine ⟨fun _ _ _ _ => ?_, fun _ _ _ _ => ?_, fun _ _ _ _ _ => ?_⟩
    · rw [takeValue]; exact Alike.of_error
    · rw [takeItems]; exact Alike.of_error
    · rw [takeEntries]; exact Alike.of_error
  | succ fuel ih => exact ⟨ih.takeValue_alike, ih.takeItems_alike, ih.takeEntries_alike⟩

theorem depthBound_unifyLines (s : List Char) : depthBound (unifyLines s) = depthBound s := by
  rw [depthBound, depthBound, filter_unifyLines]

/-- A JSON text holds the same value with unified line ends. -/
theorem read_unifyLines {nesting : Nat} {v : Value} (h : read s nesting = .ok v) :
    read (unifyLines s) nesting = .ok v := by
  unfold read at h
  split at h
  · cases h
  · next hmark =>
    unfold read
    split
    · next more hs =>
      exact absurd hs (ne_cons_of_unifyLines (by decide) (fun rest => hmark rest) more)
    · simp only [skipBlanks_eq, dropWhile_isBlank_unifyLines, depthBound_unifyLines] at h ⊢
      obtain ⟨⟨w, last, rest⟩, hvalue, h⟩ := except_bind_ok h
      obtain ⟨moved, hmoved⟩ := (readersAlike (depthBound s)).value _ _
        (0 + ((unifyLines s).takeWhile isBlank).length) _ _ _ _ hvalue
      rw [hmoved, except_ok_bind]
      simp only [dropWhile_isBlank_unifyLines] at h ⊢
      cases hend : rest.dropWhile isBlank with
      | nil =>
        rw [hend] at h
        exact h
      | cons c more =>
        rw [hend] at h
        cases h

end Json
end BoundUpdate
