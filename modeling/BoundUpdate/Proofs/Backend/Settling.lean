import BoundUpdate.Backend.Returning
import BoundUpdate.Proofs.Backend.StatementText
import BoundUpdate.Proofs.Text.Cutting

namespace BoundUpdate
namespace Returning

/-!
# What is taken off the end of a statement

Before a returning clause is appended, blanks and comments are taken off the end
of the statement one after another, then one run of semicolons, then blanks.  A
comment is looked for on the last line only, as if no literal were open at the
start of that line.  `exists_cut` says what the kept text and the text that was
taken off look like.
-/

open StatementText

variable {s t u rest text : List Char} {m : Mode} {spans : Bool}

/-! ## The comment of the last line -/

/-- The quote of the literal that is open. -/
def openQuote? : Mode → Option Char
  | .quoted q => some q.char
  | _ => none

theorem beforeComment?_quoted_cons (spans : Bool) (q : Quote) {c : Char} (hc : c ≠ '\n')
    (rest : List Char) (ahead : Option Char) :
    beforeComment? (openQuote? (.quoted q)) (c :: rest) =
      (beforeComment? (openQuote? ((Mode.quoted q).next spans c ahead)) rest).map (c :: ·) := by
  simp only [openQuote?, beforeComment?, Mode.next, hc, false_and, or_false]
  split <;> rfl

theorem beforeComment?_code_cons (spans : Bool) {c : Char} {rest : List Char}
    (hopens : ¬ (c = '-' ∧ rest.head? = some '-')) :
    beforeComment? (openQuote? .code) (c :: rest) =
      (beforeComment? (openQuote? (Mode.code.next spans c rest.head?)) rest).map (c :: ·) := by
  by_cases hsingle : c = '\''
  · subst hsingle
    rfl
  · by_cases hdouble : c = '"'
    · subst hdouble
      rfl
    · simp [openQuote?, beforeComment?, Mode.next, Quote.ofChar?, hsingle, hdouble, hopens]

theorem getLast?_cons_ne {c d : Char} (hlast : s.getLast? ≠ some d) (hnil : s = [] → c ≠ d) :
    (c :: s).getLast? ≠ some d := by
  cases s with
  | nil => simpa using hnil rfl
  | cons e s => rwa [List.getLast?_cons_cons]

theorem next_ne_comment_of_quoted (q : Quote) (c : Char) (ahead : Option Char) :
    (Mode.quoted q).next spans c ahead ≠ .comment := by
  intro h
  rw [Mode.next] at h
  split at h
  · cases h
  · cases h

/-- Where no comment opens, the reader does not come into one. -/
theorem next_ne_comment_of_code {c : Char} {ahead : Option Char}
    (hopens : ¬ (c = '-' ∧ ahead = some '-')) : Mode.code.next spans c ahead ≠ .comment := by
  intro h
  simp only [Mode.next, if_neg hopens] at h
  split at h
  · cases h
  · cases h

/-- A dash that is the last character in front of a comment would have opened it. -/
theorem next_code_eq_of_prefix (spans : Bool) {c : Char} {before text : List Char}
    (hopens : ¬ (c = '-' ∧ (before ++ '-' :: '-' :: text).head? = some '-')) :
    Mode.code.next spans c (before ++ '-' :: '-' :: text).head? =
        Mode.code.next spans c before.head? ∧ (before = [] → c ≠ '-') := by
  cases before with
  | cons d before => exact ⟨rfl, fun hnil => absurd hnil (List.cons_ne_nil d before)⟩
  | nil =>
    have hc : c ≠ '-' := fun hc => hopens ⟨hc, rfl⟩
    exact ⟨by simp [Mode.next, hc], fun _ => hc⟩

/-- A comment that is found on a line starts in code, behind no other dash. -/
theorem of_beforeComment?_eq_some (spans : Bool) {line before : List Char} (hm : m ≠ .comment)
    (hline : '\n' ∉ line) (h : beforeComment? (openQuote? m) line = some before) :
    ∃ text, line = before ++ '-' :: '-' :: text ∧ modeAfter spans m before = .code ∧
      before.getLast? ≠ some '-' := by
  induction line generalizing m before with
  | nil => cases m <;> simp [beforeComment?] at h
  | cons c line ih =>
    obtain ⟨hc, hrest⟩ := List.ne_and_not_mem_of_not_mem_cons hline
    cases m with
    | comment => exact absurd rfl hm
    | quoted q =>
      rw [beforeComment?_quoted_cons spans q (Ne.symm hc) line none] at h
      obtain ⟨before, hbefore, rfl⟩ := Option.map_eq_some_iff.1 h
      obtain ⟨text, rfl, hmode, hlast⟩ := ih (next_ne_comment_of_quoted q c none) hrest hbefore
      refine ⟨text, rfl, hmode, getLast?_cons_ne hlast ?_⟩
      -- the literal is closed by the character, which is therefore a quote
      rintro rfl rfl
      cases q <;> simp [modeAfter, Mode.next, Quote.char] at hmode
    | code =>
      by_cases hopens : c = '-' ∧ line.head? = some '-'
      · obtain ⟨rfl, hhead⟩ := hopens
        obtain ⟨text, rfl⟩ := List.head?_eq_some_iff.1 hhead
        obtain rfl : before = [] := by simpa [openQuote?, beforeComment?, eq_comm] using h
        exact ⟨text, rfl, rfl, by simp⟩
      · rw [beforeComment?_code_cons spans hopens] at h
        obtain ⟨before, hbefore, rfl⟩ := Option.map_eq_some_iff.1 h
        obtain ⟨text, rfl, hmode, hlast⟩ := ih (next_ne_comment_of_code hopens) hrest hbefore
        obtain ⟨hnext, hnil⟩ := next_code_eq_of_prefix spans hopens
        rw [hnext] at hmode
        exact ⟨text, rfl, hmode, getLast?_cons_ne hlast hnil⟩

/-- Behind a line on which no comment is found the reader is in none. -/
theorem modeAfter_ne_comment (spans : Bool) {line : List Char} (hm : m ≠ .comment)
    (hline : '\n' ∉ line) (h : beforeComment? (openQuote? m) line = none) :
    modeAfter spans m line ≠ .comment := by
  induction line generalizing m with
  | nil => exact hm
  | cons c line ih =>
    obtain ⟨hc, hrest⟩ := List.ne_and_not_mem_of_not_mem_cons hline
    cases m with
    | comment => exact absurd rfl hm
    | quoted q =>
      rw [beforeComment?_quoted_cons spans q (Ne.symm hc) line line.head?,
        Option.map_eq_none_iff] at h
      exact ih (next_ne_comment_of_quoted q c _) hrest h
    | code =>
      by_cases hopens : c = '-' ∧ line.head? = some '-'
      · obtain ⟨rfl, hhead⟩ := hopens
        simp [openQuote?, beforeComment?, hhead] at h
      · rw [beforeComment?_code_cons spans hopens, Option.map_eq_none_iff] at h
        exact ih (next_ne_comment_of_code hopens) hrest h

/-- Where literals do not go on behind line ends, every line starts in code. -/
theorem modeAfter_line (first last : List Char) :
    modeAfter false .code (first ++ '\n' :: last) = modeAfter false .code last := by
  have hapart : Apart first ('\n' :: last) := apart_of_head? (by simp)
  have hnext : ∀ m : Mode, m.next false '\n' last.head? = .code := by
    intro m
    cases m with
    | code => rfl
    | quoted q => simp [Mode.next]
    | comment => rfl
  rw [modeAfter_append hapart, modeAfter, hnext]

/-- Either there is no comment on the last line, or one is taken off that starts in code. -/
theorem dropComment_cases (s : List Char) :
    (dropComment s = s ∧ modeAfter false .code s ≠ .comment) ∨
    ∃ text, '\n' ∉ text ∧ s = dropComment s ++ '-' :: '-' :: text ∧
      modeAfter false .code (dropComment s) = .code ∧ (dropComment s).getLast? ≠ some '-' := by
  have hcode : Mode.code ≠ .comment := by decide
  cases hcut : Text.cutLast? '\n' s with
  | none =>
    have hline := Text.cutLast?_eq_none hcut
    cases hbefore : beforeComment? none s with
    | none =>
      have hdrop : dropComment s = s := by simp [dropComment, hcut, hbefore]
      exact .inl ⟨hdrop, modeAfter_ne_comment false hcode hline hbefore⟩
    | some before =>
      have hdrop : dropComment s = before := by simp [dropComment, hcut, hbefore]
      obtain ⟨text, hs, hmode, hlast⟩ := of_beforeComment?_eq_some false hcode hline hbefore
      have htext : '\n' ∉ text := by simp_all
      exact .inr ⟨text, htext, by rw [hdrop, hs], by rw [hdrop, hmode], by rwa [hdrop]⟩
  | some parts =>
    obtain ⟨first, line⟩ := parts
    obtain ⟨hs, hline⟩ := Text.cutLast?_eq_some hcut
    cases hbefore : beforeComment? none line with
    | none =>
      have hdrop : dropComment s = s := by simp [dropComment, hcut, hbefore]
      have hnone := modeAfter_ne_comment false hcode hline hbefore
      exact .inl ⟨hdrop, by rwa [hs, modeAfter_line]⟩
    | some before =>
      have hdrop : dropComment s = first ++ '\n' :: before := by
        simp [dropComment, hcut, hbefore]
      obtain ⟨text, rfl, hmode, hlast⟩ :=
        of_beforeComment?_eq_some false hcode hline hbefore
      have htext : '\n' ∉ text := by simp_all
      have hlast' : (first ++ '\n' :: before).getLast? ≠ some '-' := by
        rw [List.getLast?_append_of_ne_nil _ (List.cons_ne_nil _ _)]
        exact getLast?_cons_ne hlast fun _ => by decide
      refine .inr ⟨text, htext, ?_, ?_, by rwa [hdrop]⟩
      · rw [hdrop, hs, List.append_assoc, List.cons_append]
      · rw [hdrop, modeAfter_line, hmode]

/-! ## Taking off blanks and comments -/

/-- Text that was taken off behind `kept`, blank by blank and comment by comment.  The innermost
constructor is what was taken off last. -/
inductive TakenOff (kept : List Char) : List Char → Prop
  | nothing : TakenOff kept []
  | blank {rest : List Char} {c : Char} :
      TakenOff kept rest → Text.isBlank c = true → TakenOff kept (rest ++ [c])
  | comment {rest text : List Char} :
      TakenOff kept rest → '\n' ∉ text → modeAfter false .code (kept ++ rest) = .code →
      (kept ++ rest).getLast? ≠ some '-' → TakenOff kept (rest ++ '-' :: '-' :: text)

/-- A text that nothing more is taken off: it ends with no blank, and its last line with no
comment. -/
structure IsSettled (s : List Char) : Prop where
  trimEnd_eq : Text.trimEnd s = s
  mode_ne : modeAfter false .code s ≠ .comment

theorem exists_blanks_trimEnd (s : List Char) :
    ∃ gap, s = Text.trimEnd s ++ gap ∧ ∀ c ∈ gap, Text.isBlank c = true :=
  ⟨s.rtakeWhile Text.isBlank, List.rdropWhile_append_rtakeWhile.symm,
    fun _ hc => List.mem_rtakeWhile_imp hc⟩

theorem TakenOff.blanks (h : TakenOff u rest) {gap : List Char}
    (hgap : ∀ c ∈ gap, Text.isBlank c = true) : TakenOff u (rest ++ gap) := by
  induction gap generalizing rest with
  | nil => simpa using h
  | cons c gap ih =>
    obtain ⟨hc, hgap⟩ := List.forall_mem_cons.1 hgap
    rw [List.append_cons]
    exact ih (h.blank hc) hgap

/-- One round takes off a comment, if there is one, and blanks; the text gets shorter, or nothing
more is to be taken off. -/
theorem round_cases (s : List Char) :
    (Text.trimEnd (dropComment s) = s ∧ IsSettled s) ∨
      (Text.trimEnd (dropComment s)).length < s.length ∧
        ∀ u rest, Text.trimEnd (dropComment s) = u ++ rest → TakenOff u rest →
          ∃ rest', s = u ++ rest' ∧ TakenOff u rest' := by
  obtain ⟨gap, hgap, hblank⟩ := exists_blanks_trimEnd (dropComment s)
  rcases dropComment_cases s with ⟨hsame, hmode⟩ | ⟨text, htext, hs, hmode, hlast⟩
  · rw [hsame] at hgap ⊢
    by_cases hnil : gap = []
    · have htrim : Text.trimEnd s = s := by rw [hnil, List.append_nil] at hgap; exact hgap.symm
      exact .inl ⟨htrim, htrim, hmode⟩
    · refine .inr ⟨?_, fun u rest hu h => ?_⟩
      · have hlength := congrArg List.length hgap
        have hpos := List.length_pos_iff.2 hnil
        rw [List.length_append] at hlength
        omega
      · exact ⟨rest ++ gap, by rw [hgap, hu, List.append_assoc], h.blanks hblank⟩
  · refine .inr ⟨?_, fun u rest hu h => ?_⟩
    · have hle := Text.trimEnd_length_le (dropComment s)
      have hlength := congrArg List.length hs
      simp only [List.length_append, List.length_cons] at hlength
      omega
    · have hkept : dropComment s = u ++ (rest ++ gap) := by
        rw [hgap, hu, List.append_assoc]
      rw [hkept] at hmode hlast hs
      exact ⟨rest ++ gap ++ '-' :: '-' :: text, by rw [hs]; simp,
        (h.blanks hblank).comment htext hmode hlast⟩

/-- What is left after all rounds, and what was taken off in them. -/
theorem exists_takenOff_settle (s : List Char) :
    IsSettled (settle s) ∧ ∃ rest, s = settle s ++ rest ∧ TakenOff (settle s) rest := by
  induction hn : s.length using Nat.strongRecOn generalizing s with
  | ind n ih =>
    subst hn
    rw [settle]
    rcases round_cases s with ⟨hsame, hsettled⟩ | ⟨hlt, hround⟩
    · rw [hsame, if_neg (Nat.lt_irrefl _)]
      exact ⟨hsettled, [], by simp, .nothing⟩
    · rw [if_pos hlt]
      obtain ⟨hsettled, rest, hrest, htaken⟩ := ih _ hlt _ rfl
      exact ⟨hsettled, hround _ _ hrest htaken⟩

/-- Text that was taken off starts with a blank, or with a comment behind no other dash. -/
theorem TakenOff.head?_cases (h : TakenOff u rest) {c : Char} (hc : rest.head? = some c) :
    Text.isBlank c = true ∨ c = '-' ∧ u.getLast? ≠ some '-' := by
  induction h with
  | nothing => cases hc
  | @blank rest d _ hd ih =>
    cases rest with
    | nil =>
      cases hc
      exact .inl hd
    | cons e rest => exact ih hc
  | @comment rest text _ _ _ hlast ih =>
    cases rest with
    | nil =>
      cases hc
      exact .inr ⟨rfl, by simpa using hlast⟩
    | cons e rest => exact ih hc

theorem TakenOff.isReadAs (h : TakenOff u rest) : IsReadAs Kind.isTrivial rest := by
  induction h with
  | nothing => exact isReadAs_nil _
  | blank _ hc ih =>
    exact ih.append (isReadAs_blank hc) (apart_blanks (List.forall_mem_singleton.2 hc))
  | @comment rest text _ htext _ hlast ih =>
    refine ih.append (isReadAs_comment htext) (apart_of_getLast? fun hdash => hlast ?_)
    rw [List.getLast?_append, hdash]
    rfl

/-- Taking off opens no literal. -/
theorem TakenOff.literalsClose_kept (h : TakenOff u rest)
    (hclose : literalsClose .code (u ++ rest) = true) : literalsClose .code u = true := by
  induction h with
  | nothing => rwa [List.append_nil] at hclose
  | blank _ hc ih =>
    rw [← List.append_assoc] at hclose
    exact ih (literalsClose_of_append_blanks (List.forall_mem_singleton.2 hc) hclose)
  | comment _ _ hmode hlast ih =>
    rw [← List.append_assoc] at hclose
    obtain ⟨hsame, -, hfront⟩ := literalsClose_append (apart_of_getLast? hlast) .code hclose
    rw [hsame] at hmode
    exact ih (hfront (by rw [hmode]; rfl))

/-! ## The text that is kept -/

/-- A statement is cut behind `kept`: behind it, there are blanks, then a run of semicolons, then
text that was taken off before these. -/
structure IsCut (s kept gap : List Char) (k : Nat) (rest : List Char) : Prop where
  eq : s = kept ++ (gap ++ (List.replicate k ';' ++ rest))
  blank : ∀ c ∈ gap, Text.isBlank c = true
  takenOff : TakenOff (kept ++ (gap ++ List.replicate k ';')) rest
  settled : IsSettled (kept ++ (gap ++ List.replicate k ';'))
  trimEnd_eq : Text.trimEnd kept = kept
  semicolon : gap = [] → kept.getLast? ≠ some ';'

theorem exists_semicolons (s : List Char) :
    ∃ k, s = dropSemicolons s ++ List.replicate k ';' ∧ (dropSemicolons s).getLast? ≠ some ';' := by
  refine ⟨(s.rtakeWhile (· == ';')).length, ?_, fun hlast => ?_⟩
  · have hrun : s.rtakeWhile (· == ';') = List.replicate (s.rtakeWhile (· == ';')).length ';' :=
      List.eq_replicate_of_mem fun c hc => by simpa using List.mem_rtakeWhile_imp hc
    rw [← hrun]
    exact List.rdropWhile_append_rtakeWhile.symm
  · rw [dropSemicolons, List.getLast?_reverse] at hlast
    have hstop := List.head?_dropWhile_not (· == ';') s.reverse
    rw [hlast] at hstop
    cases hstop

theorem exists_cut (s : List Char) : ∃ gap k rest, IsCut s (body s) gap k rest := by
  obtain ⟨outer, houter, hblank⟩ := exists_blanks_trimEnd s
  obtain ⟨hsettled, rest, hrest, htaken⟩ := exists_takenOff_settle (Text.trimEnd s)
  obtain ⟨k, hk, hlast⟩ := exists_semicolons (settle (Text.trimEnd s))
  obtain ⟨gap, hgap, hgapBlank⟩ :=
    exists_blanks_trimEnd (dropSemicolons (settle (Text.trimEnd s)))
  have hbody : body s = Text.trimEnd (dropSemicolons (settle (Text.trimEnd s))) := rfl
  rw [← hbody] at hgap
  have hu : settle (Text.trimEnd s) = body s ++ (gap ++ List.replicate k ';') := by
    rw [← List.append_assoc, ← hgap, ← hk]
  rw [hu] at hsettled htaken hrest
  refine ⟨gap, k, rest ++ outer, ?_, hgapBlank, htaken.blanks hblank, hsettled, ?_, ?_⟩
  · calc
      s = Text.trimEnd s ++ outer := houter
      _ = body s ++ (gap ++ (List.replicate k ';' ++ (rest ++ outer))) := by
        rw [hrest]
        simp only [List.append_assoc]
  · rw [hbody]
    exact List.rdropWhile_idempotent _ _
  · rintro rfl
    rwa [hgap, List.append_nil] at hlast

namespace IsCut

variable {kept gap : List Char} {k : Nat}

/-- What is taken off starts with a blank, with a semicolon, or with a comment behind no other
dash. -/
theorem head?_cases (h : IsCut s kept gap k rest) {c : Char}
    (hc : (gap ++ (List.replicate k ';' ++ rest)).head? = some c) :
    Text.isBlank c = true ∨ c = ';' ∨ c = '-' ∧ kept.getLast? ≠ some '-' := by
  cases gap with
  | cons d gap =>
    cases hc
    exact .inl (h.blank c List.mem_cons_self)
  | nil =>
    cases k with
    | succ k =>
      cases hc
      exact .inr (.inl rfl)
    | zero =>
      have htaken : TakenOff kept rest := by simpa using h.takenOff
      rcases htaken.head?_cases hc with hblank | hdash
      · exact .inl hblank
      · exact .inr (.inr hdash)

theorem apart (h : IsCut s kept gap k rest) :
    Apart kept (gap ++ (List.replicate k ';' ++ rest)) := by
  intro hlast hhead
  rcases h.head?_cases hhead with hblank | hsemicolon | ⟨-, hdash⟩
  · exact ne_of_isBlank hblank (by decide) rfl
  · cases hsemicolon
  · exact hdash hlast

/-- Without semicolons nothing else is taken off in front of the comments. -/
theorem gap_eq_nil (h : IsCut s kept gap 0 rest) : gap = [] := by
  have hsettled : Text.trimEnd (kept ++ gap) = kept ++ gap := by simpa using h.settled.trimEnd_eq
  have hkept : Text.trimEnd (kept ++ gap) = kept := by
    have hblank : ∀ c ∈ gap.reverse, Text.isBlank c = true := by simpa using h.blank
    rw [Text.trimEnd, List.reverse_append, List.dropWhile_append_of_pos hblank]
    exact h.trimEnd_eq
  rw [hkept] at hsettled
  simpa using hsettled

/-- Outside of literals, what is taken off is read as blanks, semicolons and comments. -/
theorem isReadAs (h : IsCut s kept gap k rest) :
    IsReadAs Kind.isIdle (gap ++ (List.replicate k ';' ++ rest)) := by
  have hgap := (isReadAs_blanks h.blank).mono fun _ => Kind.isIdle_of_isTrivial
  have hrest := h.takenOff.isReadAs.mono fun _ => Kind.isIdle_of_isTrivial
  have hrun := (isReadAs_semicolons k).append hrest (apart_of_not_mem (not_mem_semicolons k))
  exact hgap.append hrun (apart_of_not_mem (not_mem_of_blanks h.blank))

theorem modeAfter_semicolons (h : IsCut s kept gap k rest) (spans : Bool) :
    modeAfter spans .code (kept ++ (gap ++ List.replicate k ';')) =
      modeAfter spans (modeAfter spans .code kept) gap := by
  have hkept : Apart kept (gap ++ List.replicate k ';') := by
    have happart := h.apart
    rw [← List.append_assoc] at happart
    exact happart.of_append
  rw [modeAfter_append hkept, modeAfter_append (apart_of_not_mem (not_mem_of_blanks h.blank)),
    StatementText.modeAfter_semicolons]

/-! Where literals close on their lines, none is open where the statement is cut. -/

section Closed

variable (h : IsCut s kept gap k rest) (hclose : literalsClose .code s = true)

include h hclose

theorem literalsClose_semicolons :
    literalsClose .code (kept ++ (gap ++ List.replicate k ';')) = true := by
  refine h.takenOff.literalsClose_kept ?_
  simpa only [List.append_assoc, h.eq] using hclose

/-- Behind the blanks the statement is in code, and so it is behind its last semicolons. -/
theorem modeAfter_gap (spans : Bool) :
    modeAfter spans (modeAfter spans .code kept) gap = .code := by
  have hsemicolons := h.literalsClose_semicolons hclose
  have hmode : ∀ spans, modeAfter spans .code (kept ++ (gap ++ List.replicate k ';')) = .code := by
    intro spans
    rw [modeAfter_eq hsemicolons, ← modeAfter_eq hsemicolons false]
    rcases Mode.code_or_comment (isQuoted_modeAfter hsemicolons false) with hcode | hcomment
    · exact hcode
    · exact absurd hcomment h.settled.mode_ne
  rw [← h.modeAfter_semicolons, hmode]

theorem literalsClose_kept : literalsClose .code kept = true := by
  have hsemicolons := h.literalsClose_semicolons hclose
  rw [← List.append_assoc] at hsemicolons
  obtain ⟨-, -, hfront⟩ := literalsClose_append
    (apart_of_head? fun hhead => not_mem_semicolons k (List.mem_of_mem_head? hhead)) .code
    hsemicolons
  refine literalsClose_of_append_blanks h.blank (hfront ?_)
  rw [modeAfter_append (apart_blanks h.blank), h.modeAfter_gap hclose]
  rfl

/-- Where the statement is cut, it is in code or in a comment. -/
theorem modeAfter_kept (spans : Bool) :
    modeAfter spans .code kept = .code ∨ modeAfter spans .code kept = .comment :=
  Mode.code_or_comment (isQuoted_modeAfter (h.literalsClose_kept hclose) spans)

/-- A comment in which the statement is cut ends with the line. -/
theorem line_end_mem_gap {spans : Bool} (hcomment : modeAfter spans .code kept = .comment) :
    '\n' ∈ gap := by
  by_contra hline
  have hgap := h.modeAfter_gap hclose spans
  rw [hcomment, modeAfter_comment hline] at hgap
  cases hgap

end Closed

end IsCut

end Returning
end BoundUpdate
