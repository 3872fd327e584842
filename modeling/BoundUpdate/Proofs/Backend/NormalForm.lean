import BoundUpdate.Proofs.Backend.Settling

namespace BoundUpdate
namespace Returning

/-!
# The normal form of statements

Blanks and comments are taken off the end of a statement round by round, until a
round changes nothing.  That this ends with a normal form is told here without
the order of the rounds: a normal text ends with no blank, and holds no two
dashes outside of quotes on its last line.  The main statement is that the rounds
always end, that they end with the longest such text that blanks and comments
lead to, and that further blanks and comments change nothing.
-/

open StatementText

variable {s t front gap line rest text : List Char} {quote : Option Char} {c : Char}

/-! ## Rounds -/

/-- One round: the comment of the last line is taken off, and the blanks behind what is left. -/
def settleOnce (s : List Char) : List Char := Text.trimEnd (dropComment s)

/-- The rounds that start with one text end with another one: they are repeated until one of them
changes nothing. -/
inductive Settles : List Char → List Char → Prop
  | done {s : List Char} (h : settleOnce s = s) : Settles s s
  | again {s t : List Char} (h : settleOnce s ≠ s) (hrest : Settles (settleOnce s) t) : Settles s t

theorem isPrefix_trimEnd (s : List Char) : Text.trimEnd s <+: s :=
  List.rdropWhile_prefix Text.isBlank s

theorem isPrefix_dropComment (s : List Char) : dropComment s <+: s := by
  rcases dropComment_cases s with ⟨hsame, -⟩ | ⟨text, -, hs, -, -⟩
  · exact hsame.symm ▸ List.prefix_refl s
  · exact ⟨_, hs.symm⟩

theorem isPrefix_settleOnce (s : List Char) : settleOnce s <+: s :=
  (isPrefix_trimEnd _).trans (isPrefix_dropComment s)

/-- A round that changes a text makes it shorter. -/
theorem settleOnce_eq_or_lt (s : List Char) :
    settleOnce s = s ∨ (settleOnce s).length < s.length := by
  rcases (isPrefix_settleOnce s).length_le.eq_or_lt with heq | hlt
  · exact .inl ((isPrefix_settleOnce s).eq_of_length heq)
  · exact .inr hlt

theorem settle_of_settleOnce_eq (h : settleOnce s = s) : settle s = s := by
  rw [settle]
  exact if_neg (by rw [← settleOnce, h]; exact Nat.lt_irrefl _)

theorem settle_settleOnce (s : List Char) : settle (settleOnce s) = settle s := by
  rcases settleOnce_eq_or_lt s with hsame | hlt
  · rw [hsame]
  · conv_rhs => rw [settle]
    exact (if_pos hlt).symm

/-- The rounds end, whatever they start with. -/
theorem settles_settle (s : List Char) : Settles s (settle s) := by
  -- every round but the last one makes the text shorter
  induction hn : s.length using Nat.strong_induction_on generalizing s with
  | _ n ih =>
    subst hn
    by_cases hsame : settleOnce s = s
    · rw [settle_of_settleOnce_eq hsame]
      exact .done hsame
    · have hlt := (settleOnce_eq_or_lt s).resolve_left hsame
      rw [← settle_settleOnce]
      exact .again hsame (ih _ hlt _ rfl)

theorem Settles.eq_settle (h : Settles s t) : t = settle s := by
  induction h with
  | done hsame => exact (settle_of_settleOnce_eq hsame).symm
  | again _ _ ih => rw [ih, settle_settleOnce]

theorem settles_iff : Settles s t ↔ t = settle s :=
  ⟨Settles.eq_settle, fun h => h ▸ settles_settle s⟩

theorem Settles.settleOnce_eq (h : Settles s t) : settleOnce t = t := by
  induction h with
  | done hsame => exact hsame
  | again _ _ ih => exact ih

/-! ## Lines and quotes -/

/-- The last line of a text. -/
def lastLine (s : List Char) : List Char := s.rtakeWhile (· != '\n')

/-- What follows a text starts a line. -/
def StartsLine (front : List Char) : Prop := ∀ c ∈ front.getLast?, c = '\n'

/-- The quote that is open behind a character, if `quote` is open in front of it. -/
def nextQuote (quote : Option Char) (c : Char) : Option Char :=
  match quote with
  | some q => if c = q then none else some q
  | none => if c = '\'' ∨ c = '"' then some c else none

/-- Any two dashes in a text are inside of quotes, if `quote` is open in front of it. -/
def DashesQuoted (quote : Option Char) (s : List Char) : Prop :=
  ∀ before after, s = before ++ '-' :: '-' :: after → before.foldl nextQuote quote ≠ none

theorem not_mem_lastLine (s : List Char) : '\n' ∉ lastLine s := by
  intro hmem
  simpa using List.mem_rtakeWhile_imp hmem

theorem exists_front (s : List Char) : ∃ front, s = front ++ lastLine s ∧ StartsLine front := by
  refine ⟨s.rdropWhile (· != '\n'), List.rdropWhile_append_rtakeWhile.symm, fun c hc => ?_⟩
  have hne : s.rdropWhile (· != '\n') ≠ [] := by
    intro hnil
    rw [hnil] at hc
    cases hc
  have hlast := List.rdropWhile_last_not _ _ hne
  rw [List.getLast?_eq_some_getLast hne] at hc
  cases hc
  simpa using hlast

/-- A comment is taken off the last line, wherever the line starts. -/
theorem dropComment_append (hfront : StartsLine front) (hline : '\n' ∉ line) :
    dropComment (front ++ line) = front ++ (beforeComment? none line).getD line := by
  rcases List.eq_nil_or_concat front with rfl | ⟨first, last, rfl⟩
  · have hcut : Text.cutLast? '\n' line = none := by
      rw [Text.cutLast?, Text.cut?_of_not_mem (by simpa using hline)]
      rfl
    simp [dropComment, hcut]
  · obtain rfl : last = '\n' := hfront last (by simp)
    have hcut := Text.cutLast?_append_cons hline first
    rw [List.concat_eq_append, List.append_assoc, List.singleton_append, dropComment, hcut]
    cases hbefore : beforeComment? none line <;> simp [hbefore]

/-! ## Comments and quotes -/

theorem beforeComment?_cons (quote : Option Char) (c : Char) (line : List Char) :
    beforeComment? quote (c :: line) =
      if quote = none ∧ c = '-' ∧ line.head? = some '-' then some []
      else (beforeComment? (nextQuote quote c) line).map (c :: ·) := by
  cases quote with
  | some q => simp [beforeComment?, nextQuote]
  | none =>
    by_cases hquote : c = '\'' ∨ c = '"'
    · have hdash : c ≠ '-' := by rcases hquote with rfl | rfl <;> decide
      simp [beforeComment?, nextQuote, hquote, hdash]
    · simp [beforeComment?, nextQuote, hquote]

theorem dashesQuoted_cons_iff :
    DashesQuoted quote (c :: line) ↔
      ¬ (quote = none ∧ c = '-' ∧ line.head? = some '-') ∧
        DashesQuoted (nextQuote quote c) line := by
  constructor
  · intro h
    refine ⟨?_, fun before after heq => h (c :: before) after (by rw [heq]; rfl)⟩
    rintro ⟨hquote, rfl, hhead⟩
    obtain ⟨after, rfl⟩ := List.head?_eq_some_iff.1 hhead
    exact h [] after rfl hquote
  · rintro ⟨hfirst, hrest⟩ before after heq
    cases before with
    | nil =>
      cases heq
      exact fun hquote => hfirst ⟨hquote, rfl, rfl⟩
    | cons d before =>
      cases heq
      exact hrest before after rfl

/-- No comment is found exactly if any two dashes are inside of quotes. -/
theorem beforeComment?_eq_none_iff :
    beforeComment? quote line = none ↔ DashesQuoted quote line := by
  induction line generalizing quote with
  | nil =>
    refine iff_of_true (by cases quote <;> rfl) fun before after heq => ?_
    simp at heq
  | cons c line ih =>
    rw [beforeComment?_cons, dashesQuoted_cons_iff, ← ih]
    split
    · next hopens => simp [hopens]
    · next hopens => simp [hopens]

theorem beforeComment?_of_not_mem (h : '-' ∉ line) (quote : Option Char) :
    beforeComment? quote line = none := by
  rw [beforeComment?_eq_none_iff]
  rintro before after rfl
  exact absurd (List.mem_append_right before List.mem_cons_self) h

theorem beforeComment?_append_blanks (hgap : ∀ c ∈ gap, Text.isBlank c = true)
    (quote : Option Char) (line : List Char) :
    beforeComment? quote (line ++ gap) = beforeComment? quote line := by
  induction line generalizing quote with
  | nil =>
    rw [List.nil_append, beforeComment?_of_not_mem (not_mem_of_blanks hgap)]
    cases quote <;> rfl
  | cons c line ih =>
    have hhead : (line ++ gap).head? = some '-' ↔ line.head? = some '-' := by
      cases line with
      | nil => simpa using apart_blanks (s := ['-']) hgap rfl
      | cons d line => rfl
    rw [List.cons_append, beforeComment?_cons, beforeComment?_cons, ih]
    simp only [hhead]

/-- A comment behind blanks is found. -/
theorem beforeComment?_blanks_append (hgap : ∀ c ∈ gap, Text.isBlank c = true)
    (text : List Char) : beforeComment? none (gap ++ '-' :: '-' :: text) = some gap := by
  induction gap with
  | nil => rfl
  | cons c gap ih =>
    obtain ⟨hc, hgap⟩ := List.forall_mem_cons.1 hgap
    have hdash : c ≠ '-' := ne_of_isBlank hc (by decide)
    have hsingle : c ≠ '\'' := ne_of_isBlank hc (by decide)
    have hdouble : c ≠ '"' := ne_of_isBlank hc (by decide)
    rw [List.cons_append, beforeComment?_cons]
    simp [nextQuote, hdash, hsingle, hdouble, ih hgap]

/-! ## Normal texts -/

/-- A text that ends with no blank, and on whose last line any two dashes are inside of quotes. -/
structure IsNormal (s : List Char) : Prop where
  trimmed : ∀ c ∈ s.getLast?, Text.isBlank c = false
  quoted : DashesQuoted none (lastLine s)

theorem trimEnd_eq_self_iff : Text.trimEnd s = s ↔ ∀ c ∈ s.getLast?, Text.isBlank c = false := by
  have hkeep := List.rdropWhile_eq_self_iff (p := Text.isBlank) (l := s)
  rw [show Text.trimEnd s = s.rdropWhile Text.isBlank from rfl, hkeep]
  constructor
  · intro h c hc
    obtain ⟨hne, rfl⟩ := List.mem_getLast?_eq_getLast hc
    simpa using h hne
  · intro h hne
    simpa using h _ (List.getLast_mem_getLast? hne)

theorem dropComment_eq_self_iff : dropComment s = s ↔ DashesQuoted none (lastLine s) := by
  obtain ⟨front, hs, hfront⟩ := exists_front s
  have hline := not_mem_lastLine s
  have hdrop := dropComment_append hfront hline
  rw [← hs] at hdrop
  rw [hdrop, ← beforeComment?_eq_none_iff]
  constructor
  · intro hsame
    cases hbefore : beforeComment? none (lastLine s) with
    | none => rfl
    | some before =>
      -- a comment that is found is not empty
      exfalso
      obtain ⟨text, htext, -, -⟩ :=
        of_beforeComment?_eq_some (m := .code) false (by decide) hline hbefore
      rw [hbefore, Option.getD_some] at hsame
      have heq := List.append_cancel_left (hsame.trans hs)
      rw [htext] at heq
      simp at heq
  · intro hnone
    rw [hnone, Option.getD_none, ← hs]

/-- The normal texts are the ones that a round leaves as they are. -/
theorem settleOnce_eq_self_iff : settleOnce s = s ↔ IsNormal s := by
  constructor
  · intro h
    have hdrop : dropComment s = s := by
      refine (isPrefix_dropComment s).eq_of_length_le ?_
      conv_lhs => rw [← h]
      exact (isPrefix_trimEnd _).length_le
    rw [settleOnce, hdrop] at h
    exact ⟨trimEnd_eq_self_iff.1 h, dropComment_eq_self_iff.1 hdrop⟩
  · rintro ⟨htrimmed, hquoted⟩
    rw [settleOnce, dropComment_eq_self_iff.2 hquoted, trimEnd_eq_self_iff.2 htrimmed]

/-! ## Further blanks and comments -/

theorem trimEnd_append_blanks (hgap : ∀ c ∈ gap, Text.isBlank c = true) (s : List Char) :
    Text.trimEnd (s ++ gap) = Text.trimEnd s := by
  have hreverse : ∀ c ∈ gap.reverse, Text.isBlank c = true := by simpa using hgap
  rw [Text.trimEnd, List.reverse_append, List.dropWhile_append_of_pos hreverse]
  rfl

/-- Blanks with a line end among them leave no comment on the last line. -/
theorem dropComment_append_lines (hgap : ∀ c ∈ gap, Text.isBlank c = true) (hline : '\n' ∈ gap)
    (s : List Char) : dropComment (s ++ gap) = s ++ gap := by
  obtain ⟨front, hfront, hstarts⟩ := exists_front gap
  have hlast := not_mem_lastLine gap
  have hne : front ≠ [] := by
    rintro rfl
    rw [hfront] at hline
    exact hlast hline
  have hstarts' : StartsLine (s ++ front) := by
    intro c hc
    rw [List.getLast?_append_of_ne_nil _ hne] at hc
    exact hstarts c hc
  have hblank : ∀ c ∈ lastLine gap, Text.isBlank c = true := by
    intro c hc
    rw [hfront] at hgap
    exact hgap c (List.mem_append_right front hc)
  have hdrop := dropComment_append hstarts' hlast
  rwa [beforeComment?_of_not_mem (not_mem_of_blanks hblank), Option.getD_none, List.append_assoc,
    ← hfront] at hdrop

/-- Blanks behind a text that ends with none are taken off together with a comment, or in a round of
their own. -/
theorem settleOnce_append_blanks (hgap : ∀ c ∈ gap, Text.isBlank c = true)
    (htrim : Text.trimEnd s = s) :
    settleOnce (s ++ gap) = settleOnce s ∨ settleOnce (s ++ gap) = s := by
  -- a line end among the blanks hides the last line of `s` from the first round
  by_cases hline : '\n' ∈ gap
  · right
    rw [settleOnce, dropComment_append_lines hgap hline, trimEnd_append_blanks hgap, htrim]
  · obtain ⟨front, hs, hfront⟩ := exists_front s
    have hlast := not_mem_lastLine s
    have hdrop := dropComment_append hfront hlast
    have hdrop' : dropComment (s ++ gap) =
        front ++ (beforeComment? none (lastLine s)).getD (lastLine s ++ gap) := by
      conv_lhs => rw [hs, List.append_assoc]
      rw [dropComment_append hfront (by simp [hlast, hline]), beforeComment?_append_blanks hgap]
    rw [← hs] at hdrop
    cases hbefore : beforeComment? none (lastLine s) with
    | none =>
      right
      rw [settleOnce, hdrop', hbefore, Option.getD_none, ← List.append_assoc, ← hs,
        trimEnd_append_blanks hgap, htrim]
    | some code =>
      left
      rw [settleOnce, hdrop', settleOnce, hdrop, hbefore, Option.getD_some, Option.getD_some]

theorem settle_append_blanks (hgap : ∀ c ∈ gap, Text.isBlank c = true) (s : List Char) :
    settle (s ++ gap) = settle s := by
  have htrim : Text.trimEnd (Text.trimEnd s) = Text.trimEnd s := List.rdropWhile_idempotent _ _
  -- blanks at the end of `s` itself are part of the gap
  have htrimmed : ∀ gap, (∀ c ∈ gap, Text.isBlank c = true) →
      settle (Text.trimEnd s ++ gap) = settle (Text.trimEnd s) := by
    intro gap hgap
    rw [← settle_settleOnce]
    rcases settleOnce_append_blanks hgap htrim with h | h
    · rw [h, settle_settleOnce]
    · rw [h]
  obtain ⟨gap', hs, hgap'⟩ := exists_blanks_trimEnd s
  calc
    settle (s ++ gap) = settle (Text.trimEnd s ++ (gap' ++ gap)) := by
      rw [← List.append_assoc, ← hs]
    _ = settle (Text.trimEnd s ++ gap') := by
      rw [htrimmed _ (List.forall_mem_append.2 ⟨hgap', hgap⟩), htrimmed _ hgap']
    _ = settle s := by rw [← hs]

theorem settle_trimEnd (s : List Char) : settle (Text.trimEnd s) = settle s := by
  obtain ⟨gap, hs, hgap⟩ := exists_blanks_trimEnd s
  conv_rhs => rw [hs, settle_append_blanks hgap]

/-- Blanks, and comments with lines of their own, as they may follow a text: a comment starts behind
nothing but blanks on its line, and goes on to the end of the line. -/
inductive Trails (s : List Char) : List Char → Prop
  | nothing : Trails s []
  | blank {rest : List Char} {c : Char} (hrest : Trails s rest) (hc : Text.isBlank c = true) :
      Trails s (rest ++ [c])
  | comment {rest text : List Char} (hrest : Trails s rest)
      (hline : ∀ c ∈ lastLine (s ++ rest), Text.isBlank c = true) (htext : '\n' ∉ text) :
      Trails s (rest ++ '-' :: '-' :: text)

theorem settle_append_trails (h : Trails s rest) : settle (s ++ rest) = settle s := by
  -- a comment that follows last is taken off by the first round, with the blanks in front of it
  induction h with
  | nothing => rw [List.append_nil]
  | @blank rest c _ hc ih =>
    rw [← List.append_assoc, settle_append_blanks (List.forall_mem_singleton.2 hc), ih]
  | @comment rest text _ hline htext ih =>
    obtain ⟨front, hfront, hstarts⟩ := exists_front (s ++ rest)
    have hend : '\n' ∉ lastLine (s ++ rest) ++ '-' :: '-' :: text := by
      simp [not_mem_lastLine, htext]
    have hdrop := dropComment_append hstarts hend
    rw [beforeComment?_blanks_append hline, Option.getD_some, ← List.append_assoc,
      ← hfront] at hdrop
    rw [← List.append_assoc, ← settle_settleOnce, settleOnce, hdrop, settle_trimEnd, ih]

theorem isPrefix_settle (s : List Char) : settle s <+: s := by
  obtain ⟨-, rest, hs, -⟩ := exists_takenOff_settle s
  exact ⟨rest, hs.symm⟩

/-- The rounds that take blanks and comments off the end of a statement always end: each of them
leaves the text as it is or makes it shorter.  They end with a normal start of the statement, and
neither further rounds nor further blanks and comments change what they end with. -/
theorem settles_normal (sql : String) :
    (∀ s, settleOnce s = s ∨ settleOnce s <+: s ∧ (settleOnce s).length < s.length) ∧
      ∃ t, settle (Text.trimEnd sql.toList) = t ∧
        (∀ u, Settles (Text.trimEnd sql.toList) u ↔ u = t) ∧
        IsNormal t ∧ t <+: sql.toList ∧ Settles t t ∧ Text.trimEnd t = t ∧
        ∀ rest, Trails t rest →
          Settles (t ++ rest) t ∧ Settles (Text.trimEnd (t ++ rest)) t := by
  refine ⟨fun s => ?_, ?_⟩
  · exact (settleOnce_eq_or_lt s).imp_right fun hlt => ⟨isPrefix_settleOnce s, hlt⟩
  have hsettles := settles_settle (Text.trimEnd sql.toList)
  generalize ht : settle (Text.trimEnd sql.toList) = t at hsettles
  have hfixed : settleOnce t = t := hsettles.settleOnce_eq
  have hnormal := settleOnce_eq_self_iff.1 hfixed
  refine ⟨t, rfl, fun u => ht ▸ settles_iff, hnormal, ?_, .done hfixed, ?_, fun rest htrails => ?_⟩
  · exact ht ▸ (isPrefix_settle _).trans (isPrefix_trimEnd _)
  · exact trimEnd_eq_self_iff.2 hnormal.trimmed
  · have hsame : settle (t ++ rest) = t :=
      (settle_append_trails htrails).trans (settle_of_settleOnce_eq hfixed)
    exact ⟨settles_iff.2 hsame.symm, settles_iff.2 (by rw [settle_trimEnd, hsame])⟩

/-- A blank line and comments are taken off, and other ones do not make a difference; the dashes in
the literal stay. -/
theorem settles_behind_comments :
    let sql := "INSERT INTO t VALUES ('--') -- one\n\n  -- it's done\n"
    let kept := "INSERT INTO t VALUES ('--')"
    let rest := "\n -- don't\n--"
    Settles (Text.trimEnd sql.toList) kept.toList ∧ IsNormal kept.toList ∧
      Trails kept.toList rest.toList ∧ Settles (kept.toList ++ rest.toList) kept.toList := by
  intro sql kept rest
  have hkept : settle (Text.trimEnd sql.toList) = kept.toList := by
    unfold sql kept
    cbv
  have hline : Trails kept.toList ['\n', ' '] :=
    (Trails.nothing.blank (by decide)).blank (c := ' ') (by decide)
  have hnote : Trails kept.toList (['\n', ' '] ++ '-' :: '-' :: " don't".toList) :=
    hline.comment (List.all_eq_true.1 (by decide)) (by decide)
  have hfirst : Trails kept.toList "\n -- don't\n".toList :=
    hnote.blank (c := '\n') (by decide)
  have hsplit : rest.toList = "\n -- don't\n".toList ++ ['-', '-'] := by decide
  have htrails : Trails kept.toList rest.toList :=
    hsplit ▸ hfirst.comment (List.all_eq_true.1 (by decide)) List.not_mem_nil
  obtain ⟨-, t, ht, hends, hnormal, -, -, -, hfurther⟩ := settles_normal sql
  obtain rfl : t = kept.toList := ht.symm.trans hkept
  exact ⟨(hends _).2 rfl, hnormal, htrails, (hfurther _ htrails).1⟩

end Returning
end BoundUpdate
