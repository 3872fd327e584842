import BoundUpdate.Proofs.Backend.Settling
import Mathlib.Data.List.Sublists

namespace BoundUpdate
namespace Returning

/-!
# Appending a returning clause

A returning clause is meant to be part of the statement that it is appended to,
and to cost the statement nothing.  Two main statements tell exactly when this
holds: `no_code_lost_iff` for the text that is taken off the statement, and
`clause_live_iff` for the clause itself.
-/

open StatementText

variable {s kept gap rest : List Char} {k : Nat}

/-! ## The columns of a clause -/

/-- The columns of a clause as they are written in it. -/
def columnsText (columns : List Value) : String :=
  if columns.isEmpty then "*" else String.intercalate ", " (columns.filterMap Value.text?)

theorem columnNames_of_texts {columns : List Value}
    (h : ∀ v ∈ columns, v.text?.isSome = true) (place : Nat) :
    columnNames place columns = .ok (columns.filterMap Value.text?) := by
  induction columns generalizing place with
  | nil => rfl
  | cons v columns ih =>
    obtain ⟨hv, hrest⟩ := List.forall_mem_cons.1 h
    obtain ⟨name, hname⟩ := Option.isSome_iff_exists.1 hv
    rw [columnNames, hname, ih hrest, List.filterMap_cons_some hname]
    rfl

/-- Columns that are texts never keep a clause from being appended. -/
theorem append_of_texts {columns : List Value} (h : ∀ v ∈ columns, v.text?.isSome = true)
    (sql : String) :
    append sql columns =
      .ok (String.ofList (body sql.toList) ++ " RETURNING " ++ columnsText columns) := by
  have hnames : columnList columns = .ok (columnsText columns) := by
    unfold columnList columnsText
    split
    · rfl
    · rw [joinedNames, columnNames_of_texts h]
      rfl
  rw [append, hnames]
  rfl

theorem append_of_body {sql kept : String} {columns : List Value}
    (h : ∀ v ∈ columns, v.text?.isSome = true) (hbody : body sql.toList = kept.toList) :
    append sql columns = .ok (kept ++ " RETURNING " ++ columnsText columns) := by
  rw [append_of_texts h, hbody, String.ofList_toList]

/-! ## The text that is taken off -/

/-- When a statement is read from its start, nothing behind `kept` is part of a literal or of other
code than semicolons, and no comment loses more than blanks at its end. -/
structure LosesNoCode (kept removed : List Char) : Prop where
  idle : ∀ k ∈ (kinds true .code (kept ++ removed)).drop kept.length, k.isIdle = true
  whole : modeAfter true .code kept = .comment →
    ∀ c ∈ removed.takeWhile (· != '\n'), Text.isBlank c = true

/-- A place where text may be taken off: outside of literals, and in a comment only where nothing
but blanks are left of it. -/
def MayBeCut (removed : List Char) : Mode → Prop
  | .code => True
  | .quoted _ => removed = []
  | .comment => ∀ c ∈ removed.takeWhile (· != '\n'), Text.isBlank c = true

theorem drop_kinds_append (spans : Bool) (m : Mode) {t : List Char} (h : Apart s t) :
    (kinds spans m (s ++ t)).drop s.length = kinds spans (modeAfter spans m s) t := by
  rw [kinds_append h, List.drop_left' (length_kinds m s)]

theorem IsCut.losesNoCode_iff (h : IsCut s kept gap k rest) :
    LosesNoCode kept (gap ++ (List.replicate k ';' ++ rest)) ↔
      MayBeCut (gap ++ (List.replicate k ';' ++ rest)) (modeAfter true .code kept) := by
  have hdrop := drop_kinds_append true .code h.apart
  cases hmode : modeAfter true .code kept with
  | code =>
    refine iff_of_true ⟨?_, fun hcomment => ?_⟩ trivial
    · rw [hdrop, hmode]
      exact (h.isReadAs true .code rfl).2
    · rw [hmode] at hcomment
      cases hcomment
  | comment =>
    refine ⟨fun hloses => hloses.whole hmode, fun hblank => ⟨?_, fun _ => hblank⟩⟩
    rw [hdrop, hmode]
    exact (h.isReadAs true .comment rfl).2
  | quoted q =>
    constructor
    · rintro ⟨hidle, -⟩
      rw [hdrop, hmode] at hidle
      show gap ++ (List.replicate k ';' ++ rest) = []
      -- the first character that is taken off would be part of the literal
      cases hremoved : gap ++ (List.replicate k ';' ++ rest) with
      | nil => rfl
      | cons c removed =>
        rw [hremoved] at hidle
        cases hidle _ List.mem_cons_self
    · intro hnil
      refine ⟨?_, fun hcomment => ?_⟩
      · rw [hdrop, show gap ++ (List.replicate k ';' ++ rest) = [] from hnil]
        exact fun _ hk => nomatch hk
      · rw [hmode] at hcomment
        cases hcomment

theorem mem_of_mem_takeWhile_append {t : List Char} (hline : '\n' ∈ s) {c : Char}
    (hc : c ∈ (s ++ t).takeWhile (· != '\n')) : c ∈ s := by
  have hshort : (s.takeWhile (· != '\n')).length ≠ s.length := by
    intro hlength
    have hall := List.takeWhile_eq_self_iff.1 (List.takeWhile_prefix _ |>.eq_of_length hlength)
    exact absurd (hall '\n' hline) (by decide)
  rw [List.takeWhile_append, if_neg hshort] at hc
  exact (List.takeWhile_prefix _).subset hc

/-- Where literals close on their lines, text may be taken off. -/
theorem IsCut.mayBeCut (h : IsCut s kept gap k rest) (hclose : literalsClose .code s = true) :
    MayBeCut (gap ++ (List.replicate k ';' ++ rest)) (modeAfter true .code kept) := by
  rcases h.modeAfter_kept hclose true with hmode | hmode
  · rw [hmode]
    trivial
  · rw [hmode]
    intro c hc
    exact h.blank c (mem_of_mem_takeWhile_append (h.line_end_mem_gap hclose hmode) hc)

/-- What is kept of a statement is a start of it, and the clause follows.  What is taken off holds
no code other than semicolons exactly when the statement is not cut in a literal, nor in a comment
that goes on; this is so when every literal is closed on its own line. -/
theorem no_code_lost_iff (sql : String) (columns : List Value)
    (hcolumns : ∀ v ∈ columns, v.text?.isSome = true) :
    ∃ removed, sql.toList = body sql.toList ++ removed ∧
      append sql columns =
        .ok (String.ofList (body sql.toList) ++ " RETURNING " ++ columnsText columns) ∧
      (LosesNoCode (body sql.toList) removed ↔
        MayBeCut removed (modeAfter true .code (body sql.toList))) ∧
      (literalsClose .code sql.toList = true → LosesNoCode (body sql.toList) removed) := by
  obtain ⟨gap, k, rest, hcut⟩ := exists_cut sql.toList
  refine ⟨_, hcut.eq, append_of_texts hcolumns sql, hcut.losesNoCode_iff, fun hclose => ?_⟩
  exact hcut.losesNoCode_iff.2 (hcut.mayBeCut hclose)

/-- Two dashes in a literal stay, and so does all other code. -/
theorem no_code_lost_behind_literal :
    let sql := "INSERT INTO t (a) VALUES ('--;') ;\n-- note; it's\n"
    let kept := "INSERT INTO t (a) VALUES ('--;')"
    (∀ v ∈ [Value.text "id"], v.text?.isSome = true) ∧
      append sql [.text "id"] = .ok "INSERT INTO t (a) VALUES ('--;') RETURNING id" ∧
      LosesNoCode kept.toList " ;\n-- note; it's\n".toList := by
  intro sql kept
  have hcolumns : ∀ v ∈ [Value.text "id"], v.text?.isSome = true := by simp [Value.text?]
  have hclose : literalsClose .code sql.toList = true := by decide
  have hbody : body sql.toList = kept.toList := by
    unfold sql kept
    cbv
  obtain ⟨removed, hsql, -, -, hloses⟩ := no_code_lost_iff sql [.text "id"] hcolumns
  rw [hbody] at hsql hloses
  have hsplit : sql.toList = kept.toList ++ " ;\n-- note; it's\n".toList := by decide
  have hremoved : removed = " ;\n-- note; it's\n".toList :=
    List.append_cancel_left (hsql.symm.trans hsplit)
  exact ⟨hcolumns, append_of_body hcolumns hbody, hremoved ▸ hloses hclose⟩

/-- A literal goes on behind the end of its line; on its last line two dashes are taken for a
comment, and the statement loses the rest of the literal. -/
theorem code_lost_in_literal :
    append "INSERT INTO t VALUES ('a\n--b')" [] = .ok "INSERT INTO t VALUES ('a RETURNING *" ∧
      body "INSERT INTO t VALUES ('a\n--b')".toList = "INSERT INTO t VALUES ('a".toList ∧
      ¬ LosesNoCode "INSERT INTO t VALUES ('a".toList "\n--b')".toList := by
  have hbody : body "INSERT INTO t VALUES ('a\n--b')".toList = "INSERT INTO t VALUES ('a".toList :=
    by cbv
  refine ⟨append_of_body (List.forall_mem_nil _) hbody, hbody, fun h => ?_⟩
  have hidle := h.idle
  revert hidle
  decide

/-! ## The clause -/

/-- The last code of a text, blanks apart. -/
def lastCode? (ks : List Kind) : Option Kind :=
  (ks.filter fun k => k != .blank && k != .comment).getLast?

/-- When the lines of a statement with a clause are read one by one, the clause is part of no
comment, and the code in front of it does not end with a semicolon. -/
structure IsLive (kept clause : List Char) : Prop where
  outside : ∀ k ∈ (kinds false .code (kept ++ clause)).drop kept.length, k ≠ .comment
  notEnded :
    lastCode? ((kinds false .code (kept ++ clause)).take kept.length) ≠ some .semicolon

/-- The blanks, semicolons and comments behind all other code. -/
def ending (ks : List Kind) : List Kind := ks.rtakeWhile Kind.isIdle

/-- The semicolons of an ending are one run, with nothing but blanks in front of it: no semicolon
is behind a comment, nor behind a blank that is behind a semicolon. -/
def SemicolonsTogether (ks : List Kind) : Prop :=
  ¬ [.comment, .semicolon].Sublist ks ∧ ¬ [.semicolon, .blank, .semicolon].Sublist ks

instance (ks : List Kind) : Decidable (SemicolonsTogether ks) :=
  inferInstanceAs (Decidable (¬ [.comment, .semicolon].Sublist ks ∧
    ¬ [.semicolon, .blank, .semicolon].Sublist ks))

/-- The last character of a text is read from some place to the one behind the text. -/
theorem exists_last_kind (spans : Bool) (m : Mode) {c : Char} (hlast : s.getLast? = some c) :
    ∃ before, modeAfter spans m s = before.next spans c none ∧
      (kinds spans m s).getLast? = some (Kind.of c before (modeAfter spans m s)) := by
  induction s generalizing m with
  | nil => cases hlast
  | cons d s ih =>
    cases s with
    | nil =>
      cases hlast
      exact ⟨m, rfl, rfl⟩
    | cons e s =>
      rw [List.getLast?_cons_cons] at hlast
      obtain ⟨before, hmode, hkind⟩ := ih (m.next spans d (e :: s).head?) hlast
      refine ⟨before, hmode, ?_⟩
      rw [kinds, kinds, List.getLast?_cons_cons, ← kinds]
      exact hkind

theorem getLast?_of_trimEnd_eq (h : Text.trimEnd s = s) {c : Char} (hlast : s.getLast? = some c) :
    Text.isBlank c = false := by
  have hstop := List.head?_dropWhile_not Text.isBlank s.reverse
  have hdrop : s.reverse.dropWhile Text.isBlank = s.reverse :=
    List.reverse_eq_iff.1 h
  rw [hdrop, List.head?_reverse, hlast] at hstop
  simpa using hstop

/-- A comment that is open behind a text is the last kind of it. -/
theorem getLast?_kinds_of_comment (h : modeAfter false .code s = .comment) :
    (kinds false .code s).getLast? = some .comment := by
  cases hlast : s.getLast? with
  | none =>
    rw [List.getLast?_eq_none_iff.1 hlast] at h
    cases h
  | some c =>
    obtain ⟨before, hmode, hkind⟩ := exists_last_kind false .code hlast
    rw [hkind, h]
    cases before with
    | code => rfl
    | comment => rfl
    | quoted q => exact absurd (hmode.symm.trans h) (next_ne_comment_of_quoted q c none)

/-- A text that ends in code and with no blank ends with its last code. -/
theorem last_kind_of_code (htrim : Text.trimEnd s = s) (hmode : modeAfter false .code s = .code)
    {c : Char} (hlast : s.getLast? = some c) :
    ∃ kind, (kinds false .code s).getLast? = some kind ∧ kind ≠ .blank ∧ kind ≠ .comment ∧
      (kind = .semicolon ↔ c = ';') := by
  obtain ⟨before, hnext, hkind⟩ := exists_last_kind false .code hlast
  have hblank := getLast?_of_trimEnd_eq htrim hlast
  rw [hmode] at hkind hnext
  refine ⟨_, hkind, ?_⟩
  by_cases hquoted : before.isQuoted = true
  · -- the character closes a literal, so it is no semicolon
    have hc : c ≠ ';' := by
      rintro rfl
      rw [next_semicolon] at hnext
      rw [← hnext] at hquoted
      cases hquoted
    simp [Kind.of, hquoted, hc]
  · have hcode : Kind.of c before .code = if c = ';' then .semicolon else .word := by
      have hnone : (before.isQuoted || Mode.code.isQuoted) = false := by
        rw [Bool.or_eq_false_iff]
        exact ⟨Bool.eq_false_iff.2 hquoted, rfl⟩
      simp [Kind.of, hnone, hblank]
    rw [hcode]
    split <;> simp [*]

theorem lastCode?_eq_some {ks : List Kind} {kind : Kind} (hlast : ks.getLast? = some kind)
    (hblank : kind ≠ .blank) (hcomment : kind ≠ .comment) : lastCode? ks = some kind := by
  obtain ⟨front, rfl⟩ := List.getLast?_eq_some_iff.1 hlast
  simp [lastCode?, List.filter_append, hblank, hcomment]

/-- The last code of a text that ends in code and with no blank is at its end. -/
theorem lastCode?_eq_semicolon_iff (htrim : Text.trimEnd s = s)
    (hmode : modeAfter false .code s = .code) :
    lastCode? (kinds false .code s) = some .semicolon ↔ s.getLast? = some ';' := by
  cases hlast : s.getLast? with
  | none =>
    rw [List.getLast?_eq_none_iff.1 hlast]
    simp [kinds, lastCode?]
  | some c =>
    obtain ⟨kind, hkind, hblank, hcomment, hsemicolon⟩ := last_kind_of_code htrim hmode hlast
    rw [lastCode?_eq_some hkind hblank hcomment, Option.some_inj, Option.some_inj, hsemicolon]

theorem take_kinds_append (spans : Bool) (m : Mode) {t : List Char} (h : Apart s t) :
    (kinds spans m (s ++ t)).take s.length = kinds spans m s := by
  rw [kinds_append h, List.take_left' (length_kinds m s)]

/-- What the characters of a clause are, read in code. -/
theorem kinds_clause (columns : List Char) :
    kinds false .code (" RETURNING ".toList ++ columns) =
      kinds false .code " RETURNING ".toList ++ kinds false .code columns := by
  have hword : Apart " RETURNING ".toList columns := apart_of_getLast? (by decide)
  rw [kinds_append hword]
  rfl

/-- A clause is live exactly when the statement ends in code other than a semicolon, and the clause
holds no comment of its own. -/
theorem isLive_iff (htrim : Text.trimEnd kept = kept)
    (hmode : modeAfter false .code kept = .code ∨ modeAfter false .code kept = .comment)
    (columns : List Char) :
    IsLive kept (" RETURNING ".toList ++ columns) ↔
      (modeAfter false .code kept = .code ∧ kept.getLast? ≠ some ';') ∧
        ∀ k ∈ kinds false .code columns, k ≠ .comment := by
  have hclause : Apart kept (" RETURNING ".toList ++ columns) :=
    apart_of_head? (by rw [List.head?_append_of_ne_nil _ (by decide)]; decide)
  have hdrop := drop_kinds_append false .code hclause
  have htake := take_kinds_append false .code hclause
  rcases hmode with hcode | hcomment
  · have hended := lastCode?_eq_semicolon_iff htrim hcode
    have hplain : ∀ k ∈ kinds false .code " RETURNING ".toList, k ≠ .comment := by decide
    rw [hcode, kinds_clause] at hdrop
    constructor
    · rintro ⟨houtside, hnot⟩
      rw [hdrop] at houtside
      rw [htake] at hnot
      exact ⟨⟨hcode, fun hlast => hnot (hended.2 hlast)⟩,
        (List.forall_mem_append.1 houtside).2⟩
    · rintro ⟨⟨-, hlast⟩, hcolumns⟩
      refine ⟨?_, ?_⟩
      · rw [hdrop]
        exact List.forall_mem_append.2 ⟨hplain, hcolumns⟩
      · rw [htake]
        exact fun hsemicolon => hlast (hended.1 hsemicolon)
  · -- the comment that is open behind the kept text swallows the clause
    constructor
    · rintro ⟨houtside, -⟩
      rw [hdrop, hcomment] at houtside
      exact absurd rfl (houtside .comment List.mem_cons_self)
    · rintro ⟨⟨hcode, -⟩, -⟩
      rw [hcomment] at hcode
      cases hcode

theorem ending_append {ks tail : List Kind} (h : ∀ k ∈ tail, k.isIdle = true) :
    ending (ks ++ tail) = ending ks ++ tail := by
  have hreverse : ∀ k ∈ tail.reverse, k.isIdle = true := by simpa using h
  rw [ending, List.rtakeWhile, List.reverse_append, List.takeWhile_append_of_pos hreverse,
    List.reverse_append, List.reverse_reverse]
  rfl

theorem singleton_sublist_ending {ks : List Kind} {kind : Kind} (hlast : ks.getLast? = some kind)
    (hidle : kind.isIdle = true) : [kind].Sublist (ending ks) := by
  obtain ⟨front, rfl⟩ := List.getLast?_eq_some_iff.1 hlast
  rw [ending_append (List.forall_mem_singleton.2 hidle)]
  exact List.sublist_append_right _ _

theorem ending_eq_nil {ks : List Kind} (h : ∀ kind, ks.getLast? = some kind → kind.isIdle = false) :
    ending ks = [] := by
  refine List.rtakeWhile_eq_nil_iff.2 fun hne => ?_
  rw [h _ (List.getLast?_eq_getLast_of_ne_nil hne)]
  exact Bool.false_ne_true

/-- What ends with a kind is found in front of a text that holds none of that kind. -/
theorem concat_sublist_of_not_mem (ks : List Kind) {kind : Kind} {front tail : List Kind}
    (h : kind ∉ tail) (hsublist : (ks ++ [kind]).Sublist (front ++ tail)) :
    (ks ++ [kind]).Sublist front := by
  obtain ⟨first, second, heq, hfirst, hsecond⟩ := List.sublist_append_iff.1 hsublist
  rcases List.eq_nil_or_concat second with rfl | ⟨second, last, rfl⟩
  · rwa [heq, List.append_nil]
  · rw [List.concat_eq_append, ← List.append_assoc] at heq
    obtain ⟨-, hlast⟩ := List.append_inj' heq rfl
    obtain rfl : kind = last := by simpa using hlast
    exact absurd (hsecond.subset (by simp)) h

/-- Blanks, then semicolons, then blanks and comments: the semicolons are one run. -/
theorem semicolonsTogether_run (i k : Nat) {tail : List Kind}
    (h : ∀ kind ∈ tail, kind.isTrivial = true) :
    SemicolonsTogether (List.replicate i .blank ++ (List.replicate k .semicolon ++ tail)) := by
  have htail : Kind.semicolon ∉ tail := fun hmem => by cases h _ hmem
  rw [← List.append_assoc]
  constructor
  · intro hsublist
    have hfront := concat_sublist_of_not_mem [.comment] htail hsublist
    rcases List.mem_append.1 (hfront.subset List.mem_cons_self) with hmem | hmem <;>
      cases List.eq_of_mem_replicate hmem
  · intro hsublist
    have hfront := concat_sublist_of_not_mem [.semicolon, .blank] htail hsublist
    have hblanks : (List.replicate i Kind.blank ++ List.replicate k Kind.semicolon).Pairwise
        fun a b => a = .semicolon → b ≠ .blank := by
      refine List.pairwise_append.2 ⟨?_, ?_, ?_⟩
      · exact List.pairwise_replicate.2 (.inr nofun)
      · exact List.pairwise_replicate.2 (.inr nofun)
      · intro a ha b _ heq
        rw [List.eq_of_mem_replicate ha] at heq
        cases heq
    have hpair : [Kind.semicolon, .blank].Sublist
        (List.replicate i .blank ++ List.replicate k .semicolon) :=
      (List.sublist_append_left _ _).trans hfront
    exact List.pairwise_iff_forall_sublist.1 hblanks hpair rfl rfl

theorem IsCut.kinds_eq (h : IsCut s kept gap k rest) (hclose : literalsClose .code s = true) :
    kinds false .code s = kinds false .code kept ++
      (kinds false (modeAfter false .code kept) gap ++
        (List.replicate k .semicolon ++ kinds false .code rest)) := by
  conv_lhs => rw [h.eq]
  rw [kinds_append h.apart, kinds_append (apart_of_not_mem (not_mem_of_blanks h.blank)),
    h.modeAfter_gap hclose, kinds_append (apart_of_not_mem (not_mem_semicolons k)),
    StatementText.modeAfter_semicolons, kinds_code_semicolons]

/-- Code that ends with no semicolon and with no blank has no ending. -/
theorem ending_kinds_eq_nil (htrim : Text.trimEnd s = s) (hmode : modeAfter false .code s = .code)
    (hlast : s.getLast? ≠ some ';') : ending (kinds false .code s) = [] := by
  refine ending_eq_nil fun kind hkind => ?_
  cases hc : s.getLast? with
  | none =>
    rw [List.getLast?_eq_none_iff.1 hc] at hkind
    cases hkind
  | some c =>
    obtain ⟨last, hlastKind, hblank, hcomment, hsemicolon⟩ := last_kind_of_code htrim hmode hc
    rw [hlastKind] at hkind
    cases hkind
    have hword : kind ≠ .semicolon := fun heq => hlast (by rw [hc, hsemicolon.1 heq])
    cases kind <;> first | rfl | contradiction

/-- The ending of a statement goes on from the ending of the kept text. -/
theorem IsCut.ending_eq (h : IsCut s kept gap k rest) (hclose : literalsClose .code s = true) :
    ending (kinds false .code s) = ending (kinds false .code kept) ++
      (kinds false (modeAfter false .code kept) gap ++
        (List.replicate k .semicolon ++ kinds false .code rest)) := by
  have hidle := (h.isReadAs false _ (isQuoted_modeAfter (h.literalsClose_kept hclose) false)).2
  rw [← drop_kinds_append _ _ h.apart, ← h.eq, h.kinds_eq hclose,
    List.drop_left' (length_kinds .code kept)] at hidle
  rw [h.kinds_eq hclose, ending_append hidle]

/-- Blanks are taken off in front of a semicolon only. -/
theorem IsCut.semicolon_sublist (h : IsCut s kept gap k rest) (hgap : gap ≠ []) :
    [Kind.semicolon].Sublist (List.replicate k .semicolon ++ kinds false .code rest) := by
  have hk : k ≠ 0 := by
    rintro rfl
    exact hgap h.gap_eq_nil
  obtain ⟨n, rfl⟩ := Nat.exists_eq_succ_of_ne_zero hk
  rw [List.replicate_succ]
  exact (List.nil_sublist _).cons_cons _

/-- The semicolons at the end of a statement are one run exactly when the statement is cut in code
that does not end with a semicolon. -/
theorem IsCut.semicolonsTogether_iff (h : IsCut s kept gap k rest)
    (hclose : literalsClose .code s = true) :
    SemicolonsTogether (ending (kinds false .code s)) ↔
      modeAfter false .code kept = .code ∧ kept.getLast? ≠ some ';' := by
  rw [h.ending_eq hclose]
  constructor
  · -- a cut behind a comment or a semicolon is there for the sake of a semicolon behind the blanks
    rintro ⟨hcomments, hruns⟩
    rcases h.modeAfter_kept hclose false with hcode | hcomment
    · refine ⟨hcode, fun hlast => hruns ?_⟩
      obtain ⟨kind, hkind, -, -, hsemicolon⟩ := last_kind_of_code h.trimEnd_eq hcode hlast
      rw [hsemicolon.2 rfl] at hkind
      have hgap : gap ≠ [] := fun hnil => h.semicolon hnil hlast
      have hblank : [Kind.blank].Sublist (kinds false (modeAfter false .code kept) gap) := by
        obtain ⟨c, gap', rfl⟩ := List.exists_cons_of_ne_nil hgap
        rw [hcode, kinds_code_blanks h.blank, List.length_cons, List.replicate_succ]
        exact (List.nil_sublist _).cons_cons _
      exact (singleton_sublist_ending hkind rfl).append (hblank.append (h.semicolon_sublist hgap))
    · have hgap : gap ≠ [] := List.ne_nil_of_mem (h.line_end_mem_gap hclose hcomment)
      have hlast := singleton_sublist_ending (getLast?_kinds_of_comment hcomment) rfl
      have hbehind := (List.nil_sublist (kinds false (modeAfter false .code kept) gap)).append
        (h.semicolon_sublist hgap)
      exact absurd (hlast.append hbehind) hcomments
  · rintro ⟨hcode, hlast⟩
    rw [ending_kinds_eq_nil h.trimEnd_eq hcode hlast, List.nil_append, hcode,
      kinds_code_blanks h.blank]
    exact semicolonsTogether_run _ _ (h.takenOff.isReadAs false .code rfl).2

/-- A returning clause is live in a statement whose literals are closed on their own lines exactly
when the semicolons at the end of the statement are one run behind it, and the columns hold no
comment. -/
theorem clause_live_iff (sql : String) (columns : List Value)
    (hclose : literalsClose .code sql.toList = true)
    (hcolumns : ∀ v ∈ columns, v.text?.isSome = true) :
    append sql columns =
        .ok (String.ofList (body sql.toList) ++ " RETURNING " ++ columnsText columns) ∧
      (IsLive (body sql.toList) (" RETURNING " ++ columnsText columns).toList ↔
        SemicolonsTogether (ending (kinds false .code sql.toList)) ∧
          ∀ k ∈ kinds false .code (columnsText columns).toList, k ≠ .comment) := by
  obtain ⟨gap, k, rest, hcut⟩ := exists_cut sql.toList
  refine ⟨append_of_texts hcolumns sql, ?_⟩
  rw [String.toList_append, isLive_iff hcut.trimEnd_eq (hcut.modeAfter_kept hclose false),
    hcut.semicolonsTogether_iff hclose]

/-- Semicolons in a literal and in comments do no harm, and a run of them is taken off. -/
theorem clause_live_behind_comments :
    let sql := "INSERT INTO t VALUES (';--') ;; -- one\n-- it's done;\n"
    let kept := "INSERT INTO t VALUES (';--')"
    (literalsClose .code sql.toList = true ∧ ∀ v ∈ [Value.text "id"], v.text?.isSome = true) ∧
      append sql [.text "id"] = .ok "INSERT INTO t VALUES (';--') RETURNING id" ∧
      IsLive kept.toList " RETURNING id".toList := by
  intro sql kept
  have hclose : literalsClose .code sql.toList = true := by decide
  have hcolumns : ∀ v ∈ [Value.text "id"], v.text?.isSome = true := by simp [Value.text?]
  have hbody : body sql.toList = kept.toList := by
    unfold sql kept
    cbv
  have hnames : " RETURNING " ++ columnsText [.text "id"] = " RETURNING id" := rfl
  have htogether : SemicolonsTogether (ending (kinds false .code sql.toList)) := by
    decide +kernel
  have hplain : ∀ k ∈ kinds false .code (columnsText [.text "id"]).toList, k ≠ .comment := by
    decide +kernel
  obtain ⟨-, hlive⟩ := clause_live_iff sql [.text "id"] hclose hcolumns
  rw [hbody, hnames] at hlive
  exact ⟨⟨hclose, hcolumns⟩, append_of_body hcolumns hbody, hlive.2 ⟨htogether, hplain⟩⟩

/-- The semicolon of a statement stands on a line of its own behind a comment: once it is taken off,
the statement ends with the comment, and the clause becomes part of it. -/
theorem clause_swallowed_by_comment :
    literalsClose .code "INSERT INTO t VALUES (1) -- n\n;".toList = true ∧
      append "INSERT INTO t VALUES (1) -- n\n;" [.text "id"] =
        .ok "INSERT INTO t VALUES (1) -- n RETURNING id" ∧
      body "INSERT INTO t VALUES (1) -- n\n;".toList = "INSERT INTO t VALUES (1) -- n".toList ∧
      ¬ IsLive "INSERT INTO t VALUES (1) -- n".toList " RETURNING id".toList := by
  have hcolumns : ∀ v ∈ [Value.text "id"], v.text?.isSome = true := by simp [Value.text?]
  have hbody : body "INSERT INTO t VALUES (1) -- n\n;".toList =
      "INSERT INTO t VALUES (1) -- n".toList := by cbv
  refine ⟨by decide, append_of_body hcolumns hbody, hbody, fun h => ?_⟩
  have houtside := h.outside
  revert houtside
  decide

end Returning
end BoundUpdate
