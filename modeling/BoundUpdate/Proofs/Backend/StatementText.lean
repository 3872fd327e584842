import BoundUpdate.Text.Blank
import Mathlib.Data.List.DropRight

namespace BoundUpdate
namespace StatementText

/-!
# Statement text, as a database reads it

A database reads statement text from left to right.  In code, a quote opens a
literal, which ends at the next quote of the same kind, and two dashes open a
comment, which ends with its line.  Databases differ in whether a literal may go
on behind the end of its line; `spans` tells it.  Block comments are not read.
-/

/-- The quotes of literals. -/
inductive Quote where
  | single
  | double
  deriving DecidableEq, Repr

/-- Where a reader is. -/
inductive Mode where
  | code
  /-- In a literal that the quote closes. -/
  | quoted (quote : Quote)
  | comment
  deriving DecidableEq, Repr

/-- What a character is, or what it is part of. -/
inductive Kind where
  /-- White space in code. -/
  | blank
  /-- A semicolon in code. -/
  | semicolon
  /-- Any other code. -/
  | word
  | literal
  | comment
  deriving DecidableEq, Repr

namespace Quote

/-- The character of a quote. -/
def char : Quote → Char
  | .single => '\''
  | .double => '"'

/-- The quote that a character is. -/
def ofChar? (c : Char) : Option Quote :=
  if c = '\'' then some .single else if c = '"' then some .double else none

end Quote

namespace Mode

/-- Whether a literal is open. -/
def isQuoted : Mode → Bool
  | .quoted _ => true
  | _ => false

theorem code_or_comment {m : Mode} (h : m.isQuoted = false) : m = .code ∨ m = .comment := by
  cases m with
  | code => exact .inl rfl
  | comment => exact .inr rfl
  | quoted q => cases h

/-- Where the reader is behind a character; `ahead` is the character that follows it. -/
def next (spans : Bool) (m : Mode) (c : Char) (ahead : Option Char) : Mode :=
  match m with
  | .comment => if c = '\n' then .code else .comment
  | .quoted q => if c = q.char ∨ (c = '\n' ∧ spans = false) then .code else .quoted q
  | .code =>
    match Quote.ofChar? c with
    | some q => .quoted q
    | none => if c = '-' ∧ ahead = some '-' then .comment else .code

end Mode

namespace Kind

/-- What a character is when the reader goes over it from one place to another. -/
def of (c : Char) (before behind : Mode) : Kind :=
  if before.isQuoted || behind.isQuoted then .literal
  else if behind = .comment then .comment
  else if Text.isBlank c then .blank
  else if c = ';' then .semicolon
  else .word

/-- Whether a statement can do without the characters of a kind at its end. -/
def isIdle : Kind → Bool
  | .blank => true
  | .semicolon => true
  | .comment => true
  | _ => false

end Kind

/-- Where the reader is behind a text. -/
def modeAfter (spans : Bool) : Mode → List Char → Mode
  | m, [] => m
  | m, c :: rest => modeAfter spans (m.next spans c rest.head?) rest

/-- What the characters of a text are. -/
def kinds (spans : Bool) : Mode → List Char → List Kind
  | _, [] => []
  | m, c :: rest =>
    let behind := m.next spans c rest.head?
    Kind.of c m behind :: kinds spans behind rest

/-- Whether every literal is closed on the line on which it is opened. -/
def literalsClose : Mode → List Char → Bool
  | m, [] => !m.isQuoted
  | m, c :: rest =>
    (c != '\n' || !m.isQuoted) && literalsClose (m.next true c rest.head?) rest

variable {spans : Bool} {m : Mode} {s t : List Char} {c : Char}

@[simp]
theorem length_kinds (m : Mode) (s : List Char) : (kinds spans m s).length = s.length := by
  induction s generalizing m with
  | nil => rfl
  | cons c s ih => rw [kinds, List.length_cons, List.length_cons, ih]

/-! ## Reading in two parts -/

/-- No pair of dashes lies across the place between two texts. -/
def Apart (s t : List Char) : Prop := s.getLast? = some '-' → t.head? ≠ some '-'

theorem apart_of_head? (h : t.head? ≠ some '-') : Apart s t := fun _ => h

theorem apart_of_not_mem (h : '-' ∉ s) : Apart s t :=
  fun hlast => absurd (List.mem_of_getLast? hlast) h

theorem Apart.of_append {u : List Char} (h : Apart s (t ++ u)) : Apart s t := by
  intro hlast hhead
  refine h hlast ?_
  rw [List.head?_append, hhead]
  rfl

theorem apart_of_getLast? (h : s.getLast? ≠ some '-') : Apart s t := fun hlast => absurd hlast h

theorem Apart.tail (h : Apart (c :: s) t) : Apart s t := by
  intro hlast
  refine h ?_
  rw [List.getLast?_cons, hlast]
  rfl

/-- A character in front of two texts is read without the second one. -/
theorem Apart.next_eq (h : Apart (c :: s) t) (m : Mode) :
    m.next spans c (s ++ t).head? = m.next spans c s.head? := by
  cases s with
  | cons d s => rfl
  | nil =>
    have hdash : ¬ (c = '-' ∧ t.head? = some '-') := fun hpair => h (by rw [hpair.1]; rfl) hpair.2
    cases m with
    | code => simp [Mode.next, hdash]
    | quoted q => rfl
    | comment => rfl

theorem modeAfter_append (h : Apart s t) (m : Mode) :
    modeAfter spans m (s ++ t) = modeAfter spans (modeAfter spans m s) t := by
  induction s generalizing m with
  | nil => rfl
  | cons c s ih => rw [List.cons_append, modeAfter, h.next_eq, ih h.tail, modeAfter]

theorem kinds_append (h : Apart s t) (m : Mode) :
    kinds spans m (s ++ t) = kinds spans m s ++ kinds spans (modeAfter spans m s) t := by
  induction s generalizing m with
  | nil => rfl
  | cons c s ih =>
    rw [List.cons_append, kinds, h.next_eq, ih h.tail, kinds, modeAfter, List.cons_append]

/-- Where literals close on their lines, it does not matter whether they could go on, and they close
in the first part if none is open behind it. -/
theorem literalsClose_append (h : Apart s t) (m : Mode) (hclose : literalsClose m (s ++ t) = true) :
    (∀ spans, modeAfter spans m s = modeAfter true m s) ∧
      literalsClose (modeAfter true m s) t = true ∧
      ((modeAfter true m s).isQuoted = false → literalsClose m s = true) := by
  induction s generalizing m with
  | nil => exact ⟨fun _ => rfl, hclose, fun hm => by rw [literalsClose]; exact hm ▸ rfl⟩
  | cons c s ih =>
    rw [List.cons_append, literalsClose, h.next_eq, Bool.and_eq_true] at hclose
    obtain ⟨hline, hrest⟩ := hclose
    obtain ⟨hmode, hbehind, hfront⟩ := ih h.tail _ hrest
    have hnext : ∀ spans, m.next spans c s.head? = m.next true c s.head? := by
      intro spans
      cases m with
      | quoted q =>
        have hc : c ≠ '\n' := by simpa [Mode.isQuoted] using hline
        simp [Mode.next, hc]
      | code => rfl
      | comment => rfl
    refine ⟨fun spans => ?_, hbehind, fun hm => ?_⟩
    · rw [modeAfter, modeAfter, hnext, hmode]
    · rw [literalsClose, Bool.and_eq_true]
      exact ⟨hline, hfront hm⟩

theorem modeAfter_eq (h : literalsClose m s = true) (spans : Bool) :
    modeAfter spans m s = modeAfter true m s := by
  have hempty : literalsClose m (s ++ []) = true := by rwa [List.append_nil]
  exact (literalsClose_append (apart_of_head? (by simp)) m hempty).1 spans

theorem isQuoted_modeAfter (h : literalsClose m s = true) (spans : Bool) :
    (modeAfter spans m s).isQuoted = false := by
  have hempty : literalsClose m (s ++ []) = true := by rwa [List.append_nil]
  obtain ⟨-, hbehind, -⟩ := literalsClose_append (apart_of_head? (by simp)) m hempty
  rw [modeAfter_eq h]
  simpa [literalsClose] using hbehind

/-! ## Blanks and semicolons -/

theorem ne_of_isBlank (h : Text.isBlank c = true) {d : Char} (hd : Text.isBlank d = false) :
    c ≠ d := by
  rintro rfl
  rw [h] at hd
  cases hd

theorem isBlank_char (q : Quote) : Text.isBlank q.char = false := by
  cases q <;> decide

theorem ofChar?_of_isBlank (h : Text.isBlank c = true) : Quote.ofChar? c = none := by
  have hsingle : c ≠ '\'' := ne_of_isBlank h (by decide)
  have hdouble : c ≠ '"' := ne_of_isBlank h (by decide)
  simp [Quote.ofChar?, hsingle, hdouble]

theorem next_code_of_isBlank (spans : Bool) (h : Text.isBlank c = true) (ahead : Option Char) :
    Mode.code.next spans c ahead = .code := by
  have hdash : c ≠ '-' := ne_of_isBlank h (by decide)
  simp [Mode.next, ofChar?_of_isBlank h, hdash]

theorem apart_blanks (h : ∀ c ∈ t, Text.isBlank c = true) : Apart s t := by
  refine apart_of_head? fun hdash => ?_
  exact ne_of_isBlank (h '-' (List.mem_of_mem_head? hdash)) (by decide) rfl

theorem kinds_code_blanks (h : ∀ c ∈ t, Text.isBlank c = true) :
    kinds spans .code t = List.replicate t.length .blank := by
  induction t with
  | nil => rfl
  | cons c t ih =>
    obtain ⟨hc, ht⟩ := List.forall_mem_cons.1 h
    have hkind : Kind.of c .code .code = .blank := by simp [Kind.of, Mode.isQuoted, hc]
    rw [kinds, next_code_of_isBlank spans hc, ih ht, hkind, List.length_cons, List.replicate_succ]

/-- Blanks do not close a literal on its line. -/
theorem literalsClose_quoted_blanks (q : Quote) (h : ∀ c ∈ t, Text.isBlank c = true) :
    literalsClose (.quoted q) t = false := by
  induction t with
  | nil => rfl
  | cons c t ih =>
    obtain ⟨hc, ht⟩ := List.forall_mem_cons.1 h
    have hquote : c ≠ q.char := ne_of_isBlank hc (isBlank_char q)
    have hnext : (Mode.quoted q).next true c t.head? = .quoted q := by simp [Mode.next, hquote]
    rw [literalsClose, hnext, ih ht, Bool.and_false]

theorem not_mem_of_blanks (h : ∀ c ∈ t, Text.isBlank c = true) : '-' ∉ t :=
  fun hdash => ne_of_isBlank (h '-' hdash) (by decide) rfl

theorem literalsClose_of_append_blanks (h : ∀ c ∈ t, Text.isBlank c = true)
    (hclose : literalsClose m (s ++ t) = true) : literalsClose m s = true := by
  obtain ⟨-, hbehind, hfront⟩ := literalsClose_append (apart_blanks h) m hclose
  refine hfront ?_
  cases hmode : modeAfter true m s with
  | quoted q =>
    rw [hmode, literalsClose_quoted_blanks q h] at hbehind
    cases hbehind
  | code => rfl
  | comment => rfl

theorem next_semicolon (m : Mode) (ahead : Option Char) : m.next spans ';' ahead = m := by
  cases m with
  | code => simp [Mode.next, Quote.ofChar?]
  | quoted q => cases q <;> simp [Mode.next, Quote.char]
  | comment => simp [Mode.next]

/-- Semicolons leave the reader where it is. -/
theorem modeAfter_semicolons (m : Mode) (k : Nat) :
    modeAfter spans m (List.replicate k ';') = m := by
  induction k with
  | zero => rfl
  | succ k ih => rw [List.replicate_succ, modeAfter, next_semicolon, ih]

theorem not_mem_semicolons (k : Nat) : '-' ∉ List.replicate k ';' :=
  fun hdash => absurd (List.eq_of_mem_replicate hdash) (by decide)

theorem kinds_code_semicolons (k : Nat) :
    kinds spans .code (List.replicate k ';') = List.replicate k .semicolon := by
  induction k with
  | zero => rfl
  | succ k ih =>
    rw [List.replicate_succ, kinds, next_semicolon, ih, List.replicate_succ]
    rfl

/-! ## Blanks, semicolons and comments outside of literals -/

/-- Whether a kind is that of blanks and comments. -/
def Kind.isTrivial : Kind → Bool
  | .blank => true
  | .comment => true
  | _ => false

theorem Kind.isIdle_of_isTrivial {k : Kind} (h : k.isTrivial = true) : k.isIdle = true := by
  cases k <;> first | rfl | cases h

/-- Outside of literals, a text is read as kinds of a class, and it opens no literal. -/
def IsReadAs (p : Kind → Bool) (t : List Char) : Prop :=
  ∀ (spans : Bool) (m : Mode), m.isQuoted = false →
    (modeAfter spans m t).isQuoted = false ∧ ∀ k ∈ kinds spans m t, p k = true

variable {p q : Kind → Bool}

theorem isReadAs_nil (p : Kind → Bool) : IsReadAs p [] :=
  fun _ _ hm => ⟨hm, fun _ hk => nomatch hk⟩

theorem IsReadAs.append (hs : IsReadAs p s) (ht : IsReadAs p t) (h : Apart s t) :
    IsReadAs p (s ++ t) := by
  intro spans m hm
  obtain ⟨hmode, hkinds⟩ := hs spans m hm
  obtain ⟨hmode', hkinds'⟩ := ht spans _ hmode
  rw [modeAfter_append h, kinds_append h]
  exact ⟨hmode', List.forall_mem_append.2 ⟨hkinds, hkinds'⟩⟩

theorem IsReadAs.mono (h : IsReadAs p t) (hpq : ∀ k, p k = true → q k = true) : IsReadAs q t :=
  fun spans m hm => ⟨(h spans m hm).1, fun k hk => hpq k ((h spans m hm).2 k hk)⟩

theorem isReadAs_blank (h : Text.isBlank c = true) : IsReadAs Kind.isTrivial [c] := by
  intro spans m hm
  rcases Mode.code_or_comment hm with rfl | rfl
  · have hnext := next_code_of_isBlank spans h none
    simp [modeAfter, kinds, hnext, Kind.of, Mode.isQuoted, h, Kind.isTrivial]
  · -- a line end closes the comment and is a blank itself
    by_cases hline : c = '\n'
    · subst hline
      exact ⟨rfl, List.forall_mem_singleton.2 rfl⟩
    · simp [modeAfter, kinds, Mode.next, hline, Kind.of, Mode.isQuoted, Kind.isTrivial]

theorem isReadAs_blanks (h : ∀ c ∈ t, Text.isBlank c = true) : IsReadAs Kind.isTrivial t := by
  induction t with
  | nil => exact isReadAs_nil _
  | cons c t ih =>
    obtain ⟨hc, ht⟩ := List.forall_mem_cons.1 h
    exact (isReadAs_blank hc).append (ih ht) (apart_blanks ht)

theorem isReadAs_semicolons (k : Nat) : IsReadAs Kind.isIdle (List.replicate k ';') := by
  intro spans m hm
  rw [modeAfter_semicolons]
  refine ⟨hm, ?_⟩
  induction k with
  | zero => exact fun _ hk => nomatch hk
  | succ k ih =>
    rw [List.replicate_succ, kinds, next_semicolon]
    refine List.forall_mem_cons.2 ⟨?_, ih⟩
    rcases Mode.code_or_comment hm with rfl | rfl
    · rfl
    · rfl

/-- A comment goes on to the end of its line. -/
theorem modeAfter_comment (h : '\n' ∉ t) : modeAfter spans .comment t = .comment := by
  induction t with
  | nil => rfl
  | cons c t ih =>
    obtain ⟨hc, ht⟩ := List.ne_and_not_mem_of_not_mem_cons h
    have hnext : Mode.comment.next spans c t.head? = .comment := by simp [Mode.next, Ne.symm hc]
    rw [modeAfter, hnext, ih ht]

theorem kinds_comment (h : '\n' ∉ t) :
    kinds spans .comment t = List.replicate t.length .comment := by
  induction t with
  | nil => rfl
  | cons c t ih =>
    obtain ⟨hc, ht⟩ := List.ne_and_not_mem_of_not_mem_cons h
    have hnext : Mode.comment.next spans c t.head? = .comment := by simp [Mode.next, Ne.symm hc]
    rw [kinds, hnext, ih ht, List.length_cons, List.replicate_succ]
    rfl

theorem isReadAs_comment (h : '\n' ∉ t) : IsReadAs Kind.isTrivial ('-' :: '-' :: t) := by
  intro spans m hm
  have hline : '\n' ∉ '-' :: t := by simpa using h
  -- behind the first dash, the reader is in a comment
  have hnext : m.next spans '-' ('-' :: t).head? = .comment := by
    rcases Mode.code_or_comment hm with rfl | rfl
    · rfl
    · rfl
  rw [modeAfter, kinds, hnext, modeAfter_comment hline, kinds_comment hline]
  refine ⟨rfl, List.forall_mem_cons.2 ⟨?_, fun k hk => ?_⟩⟩
  · rcases Mode.code_or_comment hm with rfl | rfl
    · rfl
    · rfl
  · rw [List.eq_of_mem_replicate hk]
    rfl

end StatementText
end BoundUpdate
