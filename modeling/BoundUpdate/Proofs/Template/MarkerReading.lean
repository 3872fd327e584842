import BoundUpdate.Backend.Database
import BoundUpdate.Proofs.Number.Notation
import BoundUpdate.Proofs.Template.Segments
import Mathlib.Data.List.Nodup

namespace BoundUpdate
namespace Template

/-!
# Markers with numbers and names, as a driver reads them

A driver finds its markers in statement text by their first character and takes
the longest run of name characters behind it for their name.  In text that was
rendered from a template whose literals hold no such first character, it finds
the markers of the placeholders, in order, exactly when no placeholder is
directly followed by a literal that goes on with the name.
-/

/-- The characters of names. -/
def isWord (c : Char) : Bool := Number.isDigit c || c.isAlpha || c == '_'

/-- The names behind the colons of statement text: the longest runs of name characters.  A colon
with no such character behind it is no marker. -/
def colonNames (isName : Char → Bool) : List Char → List (List Char)
  | [] => []
  | c :: rest =>
    if c = ':' ∧ rest.takeWhile isName ≠ [] then
      rest.takeWhile isName :: colonNames isName rest
    else colonNames isName rest

/-- No question mark is directly followed by a digit. -/
def QuestionsApart (s : List Char) : Prop := s.IsChain fun a b => a = '?' → Number.isDigit b = false

instance (s : List Char) : Decidable (QuestionsApart s) :=
  inferInstanceAs (Decidable (s.IsChain fun a b => a = '?' → Number.isDigit b = false))

/-- Whether a segment goes on with a name before it: a literal does if its first character is one
of names. -/
def goesOn (isName : Char → Bool) : Segment → Bool
  | .literal text => text.toList.head?.any isName
  | .placeholder _ => false

/-- No placeholder is directly followed by a literal that goes on with a name. -/
def Apart (isName : Char → Bool) (segments : List Segment) : Prop :=
  segments.IsChain fun a b => a.placeholder?.isSome → goesOn isName b = false

instance (isName : Char → Bool) (segments : List Segment) : Decidable (Apart isName segments) :=
  inferInstanceAs (Decidable (segments.IsChain fun a b =>
    a.placeholder?.isSome → goesOn isName b = false))

/-- The names of the first so many bound values. -/
def valueNames (n : Nat) : List (List Char) :=
  (List.range' 1 n).map fun k => 'p' :: Number.natChars k

/-! ## Reading over literals -/

theorem colonNames_append {isName : Char → Bool} {text : List Char} (h : ':' ∉ text)
    (rest : List Char) : colonNames isName (text ++ rest) = colonNames isName rest := by
  induction text with
  | nil => rfl
  | cons c text ih =>
    obtain ⟨hc, htext⟩ := List.ne_and_not_mem_of_not_mem_cons h
    have hno : ¬ (c = ':' ∧ (text ++ rest).takeWhile isName ≠ []) := fun hand => hc hand.1.symm
    rw [List.cons_append, colonNames, if_neg hno, ih htext]

theorem questionsApart_append_iff {text : List Char} (h : '?' ∉ text) (rest : List Char) :
    QuestionsApart (text ++ rest) ↔ QuestionsApart rest := by
  induction text with
  | nil => rfl
  | cons c text ih =>
    obtain ⟨hc, htext⟩ := List.ne_and_not_mem_of_not_mem_cons h
    unfold QuestionsApart at ih ⊢
    rw [List.cons_append, List.isChain_cons, ih htext]
    exact and_iff_right fun _ _ heq => absurd heq.symm hc

theorem questionsApart_question_iff (rest : List Char) :
    QuestionsApart ('?' :: rest) ↔
      rest.head?.any Number.isDigit = false ∧ QuestionsApart rest := by
  unfold QuestionsApart
  rw [List.isChain_cons, Option.any_eq_false]
  simp

theorem takeWhile_eq_nil_iff {isName : Char → Bool} {rest : List Char} :
    rest.takeWhile isName = [] ↔ rest.head?.any isName = false := by
  cases rest with
  | nil => simp
  | cons c rest => cases hc : isName c <;> simp [hc]

/-- A marker is read by its own name exactly when nothing behind it goes on with the name. -/
theorem colonNames_marker {isName : Char → Bool} {name : List Char} (hne : name ≠ [])
    (hname : ∀ c ∈ name, isName c = true) (hcolon : isName ':' = false) (rest : List Char) :
    colonNames isName (':' :: (name ++ rest)) =
      (name ++ rest.takeWhile isName) :: colonNames isName rest := by
  have hrun : (name ++ rest).takeWhile isName = name ++ rest.takeWhile isName :=
    List.takeWhile_append_of_pos hname
  have hnot : ':' ∉ name := by
    intro hmem
    rw [hname ':' hmem] at hcolon
    cases hcolon
  have hyes : ':' = ':' ∧ (name ++ rest).takeWhile isName ≠ [] := by
    refine ⟨rfl, ?_⟩
    rw [hrun]
    exact List.append_ne_nil_of_left_ne_nil hne _
  rw [colonNames, if_pos hyes, hrun, colonNames_append hnot]

/-! ## Reading rendered text -/

/-- A style that writes literals as they are and markers as a colon with a name. -/
structure Naming (style : MarkerStyle) (isName : Char → Bool) (name : Nat → List Char) : Prop where
  literal : ∀ text, style.literal text = text
  marker : ∀ position, style.marker position = ':' :: name position
  ne_nil : ∀ position, name position ≠ []
  isName_of_mem : ∀ position, ∀ c ∈ name position, isName c = true
  colon : isName ':' = false

theorem Naming.any_head?_marker {style : MarkerStyle} {isName : Char → Bool}
    {name : Nat → List Char} (h : Naming style isName name) (position : Nat) :
    (style.marker position).head?.any isName = false := by
  rw [h.marker, List.head?_cons, Option.any_some, h.colon]

theorem Naming.marker_ne_nil {style : MarkerStyle} {isName : Char → Bool}
    {name : Nat → List Char} (h : Naming style isName name) (position : Nat) :
    style.marker position ≠ [] := by
  rw [h.marker]
  exact List.cons_ne_nil _ _

theorem naming_numeric : Naming .numeric Number.isDigit Number.natChars where
  literal := fun _ => rfl
  marker := fun _ => rfl
  ne_nil := Number.natChars_ne_nil
  isName_of_mem := fun _ _ hc => Number.isDigit_of_mem_natChars hc
  colon := by decide

theorem naming_named : Naming .named isWord fun k => 'p' :: Number.natChars k where
  literal := fun _ => rfl
  marker := fun _ => rfl
  ne_nil := fun _ => List.cons_ne_nil _ _
  isName_of_mem := by
    intro k c hc
    rcases List.mem_cons.1 hc with rfl | hc
    · decide
    · simp [isWord, Number.isDigit_of_mem_natChars hc]
  colon := by decide

theorem apart_literal_iff {isName : Char → Bool} {text : String} {segments : List Segment} :
    Apart isName (.literal text :: segments) ↔ Apart isName segments := by
  unfold Apart
  rw [List.isChain_cons]
  exact and_iff_right fun _ _ hplaceholder => nomatch hplaceholder

theorem apart_placeholder_iff {isName : Char → Bool} {p : Placeholder} {segments : List Segment} :
    Apart isName (.placeholder p :: segments) ↔
      segments.head?.any (goesOn isName) = false ∧ Apart isName segments := by
  unfold Apart
  rw [List.isChain_cons, Option.any_eq_false]
  simp [Segment.placeholder?]

/-- What stands behind a marker in rendered text goes on with its name only if it is a literal. -/
theorem any_head?_renderFrom {style : MarkerStyle} {isName : Char → Bool}
    (hliteral : ∀ text, style.literal text = text)
    (hmarker : ∀ position, (style.marker position).head?.any isName = false)
    (hne : ∀ position, style.marker position ≠ [])
    {segments : List Segment} (hnonempty : Segment.literal "" ∉ segments) (position : Nat) :
    (renderFrom style position segments).head?.any isName =
      segments.head?.any (goesOn isName) := by
  cases segments with
  | nil => rfl
  | cons segment segments =>
    cases segment with
    | literal text =>
      have htext : text.toList ≠ [] := by
        intro hnil
        obtain rfl : text = "" := String.toList_eq_nil_iff.1 hnil
        exact hnonempty List.mem_cons_self
      rw [renderFrom, hliteral, List.head?_append_of_ne_nil _ htext]
      rfl
    | placeholder p =>
      rw [renderFrom, List.head?_append_of_ne_nil _ (hne position), hmarker]
      rfl

/-- The names in rendered text are those of the markers exactly when no literal goes on with one. -/
theorem Naming.colonNames_renderFrom_iff {style : MarkerStyle} {isName : Char → Bool}
    {name : Nat → List Char} (h : Naming style isName name) {segments : List Segment}
    (hnonempty : Segment.literal "" ∉ segments)
    (hcolon : ∀ text, Segment.literal text ∈ segments → ':' ∉ text.toList) (position : Nat) :
    colonNames isName (renderFrom style position segments) =
        (List.range' position (segments.filterMap Segment.placeholder?).length).map name ↔
      Apart isName segments := by
  induction segments generalizing position with
  | nil => simp [renderFrom, colonNames, Apart]
  | cons segment segments ih =>
    have hne : Segment.literal "" ∉ segments := List.not_mem_of_not_mem_cons hnonempty
    have hrest := ih hne fun text htext => hcolon text (List.mem_cons_of_mem _ htext)
    cases segment with
    | literal text =>
      have htext : ':' ∉ text.toList := hcolon text List.mem_cons_self
      rw [renderFrom, h.literal, colonNames_append htext, apart_literal_iff]
      exact hrest position
    | placeholder p =>
      have hhead := any_head?_renderFrom h.literal h.any_head?_marker h.marker_ne_nil hne
        (position + 1)
      have hread := colonNames_marker (h.ne_nil position) (h.isName_of_mem position) h.colon
        (renderFrom style (position + 1) segments)
      -- what is read is the name with whatever goes on behind it, so nothing may
      have hnames : (List.range' position
            ((Segment.placeholder p :: segments).filterMap Segment.placeholder?).length).map name =
          name position :: (List.range' (position + 1)
            (segments.filterMap Segment.placeholder?).length).map name := rfl
      rw [renderFrom, h.marker, List.cons_append, hread, hnames, List.cons_eq_cons, hrest,
        apart_placeholder_iff, ← hhead, ← takeWhile_eq_nil_iff, List.append_right_eq_self]

theorem questionsApart_renderFrom_iff {segments : List Segment}
    (hnonempty : Segment.literal "" ∉ segments)
    (hquestion : ∀ text, Segment.literal text ∈ segments → '?' ∉ text.toList) (position : Nat) :
    QuestionsApart (renderFrom .qmark position segments) ↔ Apart Number.isDigit segments := by
  induction segments generalizing position with
  | nil => simp [renderFrom, QuestionsApart, Apart]
  | cons segment segments ih =>
    have hne : Segment.literal "" ∉ segments := List.not_mem_of_not_mem_cons hnonempty
    have hrest := ih hne fun text htext => hquestion text (List.mem_cons_of_mem _ htext)
    cases segment with
    | literal text =>
      have htext : '?' ∉ text.toList := hquestion text List.mem_cons_self
      rw [apart_literal_iff, ← hrest position]
      exact questionsApart_append_iff htext _
    | placeholder p =>
      have hmarker : ∀ k, (MarkerStyle.qmark.marker k).head?.any Number.isDigit = false :=
        fun _ => rfl
      have hhead := any_head?_renderFrom (fun _ => rfl) hmarker (fun _ => List.cons_ne_nil _ _) hne
        (position + 1)
      rw [apart_placeholder_iff, ← hhead, ← hrest (position + 1)]
      exact questionsApart_question_iff _

/-! ## Named values -/

theorem valueNames_nodup (n : Nat) : (valueNames n).Nodup := by
  refine List.Nodup.map ?_ List.nodup_range'
  intro j k hjk
  exact Number.natChars_injective (List.cons.inj hjk).2

theorem namedFrom_eq_zip (position : Nat) (values : List Value) :
    Database.namedFrom position values =
      ((List.range' position values.length).map fun k =>
        Value.text (String.ofList ('p' :: Number.natChars k))).zip values := by
  induction values generalizing position with
  | nil => rfl
  | cons v values ih =>
    have hname : "p" ++ Number.natText position =
        String.ofList ('p' :: Number.natChars position) :=
      String.toList_injective (by simp [Number.natText])
    rw [Database.namedFrom, ih, hname, List.length_cons, List.range'_succ, List.map_cons,
      List.zip_cons_cons]

/-- A driver with named values gets every value under the name of its marker. -/
theorem driverParameters_named {d : Database} (h : d.style = MarkerStyle.named.word)
    (values : List Value) :
    d.driverParameters values =
      .dict
        (((valueNames values.length).map fun name => .text (String.ofList name)).zip values) := by
  rw [Database.driverParameters, if_pos h, namedFrom_eq_zip, valueNames, List.map_map]
  rfl

/-! ## Which templates have markers that stand apart -/

/-- When no literal holds a first character of a marker, a driver reads exactly the markers of the
placeholders if and only if no placeholder is directly followed by a literal that goes on with the
marker.  The names of the markers are the keys of the named values, which are all different. -/
theorem markers_read_iff_apart (source : String) (t : Template) (hread : read source = .ok t)
    (hplain : ∀ text, Segment.literal text ∈ t.segments → ':' ∉ text.toList ∧ '?' ∉ text.toList) :
    (colonNames Number.isDigit (t.render .numeric).toList =
        (List.range' 1 t.placeholders.length).map Number.natChars ↔
      Apart Number.isDigit t.segments) ∧
    (colonNames isWord (t.render .named).toList = valueNames t.placeholders.length ↔
      Apart isWord t.segments) ∧
    (QuestionsApart (t.render .qmark).toList ↔ Apart Number.isDigit t.segments) ∧
    (∀ (d : Database) (values : List Value), d.style = MarkerStyle.named.word →
      values.length = t.placeholders.length →
      d.driverParameters values =
        .dict (((valueNames t.placeholders.length).map fun name =>
          .text (String.ofList name)).zip values)) ∧
    (valueNames t.placeholders.length).Nodup := by
  have hnonempty := (isDecomposition_of_read hread).nonempty
  have hcolon := fun text htext => (hplain text htext).1
  have hquestion := fun text htext => (hplain text htext).2
  refine ⟨?_, ?_, ?_, ?_, valueNames_nodup _⟩
  · rw [render, String.toList_ofList]
    exact naming_numeric.colonNames_renderFrom_iff hnonempty hcolon 1
  · rw [render, String.toList_ofList]
    exact naming_named.colonNames_renderFrom_iff hnonempty hcolon 1
  · rw [render, String.toList_ofList]
    exact questionsApart_renderFrom_iff hnonempty hquestion 1
  · intro d values hstyle hlength
    rw [driverParameters_named hstyle, hlength]

/-- Two markers with a space and with the end of the text behind them. -/
theorem markers_read_spaced :
    let t : Template := { source := "a = ?\x7b1\x7d AND b = ?2", segments :=
      [.literal "a = ", .placeholder { index := 1 }, .literal " AND b = ",
        .placeholder { index := 2 }] }
    read "a = ?\x7b1\x7d AND b = ?2" = .ok t ∧
      (∀ text, Segment.literal text ∈ t.segments → ':' ∉ text.toList ∧ '?' ∉ text.toList) ∧
      colonNames Number.isDigit (t.render .numeric).toList = ["1".toList, "2".toList] ∧
      colonNames isWord (t.render .named).toList = ["p1".toList, "p2".toList] ∧
      QuestionsApart (t.render .qmark).toList := by
  intro t
  have hread : read "a = ?\x7b1\x7d AND b = ?2" = .ok t := by cbv
  have hplain : ∀ text, Segment.literal text ∈ t.segments →
      ':' ∉ text.toList ∧ '?' ∉ text.toList := by
    intro text htext
    have hcases : text = "a = " ∨ text = " AND b = " := by simpa [t] using htext
    rcases hcases with rfl | rfl <;> decide
  have hdigit : Apart Number.isDigit t.segments := by decide +kernel
  have hword : Apart isWord t.segments := by decide +kernel
  have hnumbers : (List.range' 1 t.placeholders.length).map Number.natChars =
      ["1".toList, "2".toList] := by decide +kernel
  have hnames : valueNames t.placeholders.length = ["p1".toList, "p2".toList] := by
    decide +kernel
  obtain ⟨hnumeric, hnamed, hqmark, -⟩ := markers_read_iff_apart _ t hread hplain
  exact ⟨hread, hplain, (hnumeric.2 hdigit).trans hnumbers, (hnamed.2 hword).trans hnames,
    hqmark.2 hdigit⟩

/-- A digit behind a closing brace becomes part of the marker: the driver reads another number,
another name and a numbered question mark. -/
theorem markers_run_into_digit :
    ∃ t : Template, read "?\x7b1\x7d0" = .ok t ∧
      t.segments = [.placeholder { index := 1 }, .literal "0"] ∧
      colonNames Number.isDigit (t.render .numeric).toList = ["10".toList] ∧
      colonNames isWord (t.render .named).toList = ["p10".toList] ∧
      valueNames t.placeholders.length = ["p1".toList] ∧
      ¬ QuestionsApart (t.render .qmark).toList := by
  refine ⟨{ source := "?\x7b1\x7d0", segments := [.placeholder { index := 1 }, .literal "0"] },
    ?_, rfl, ?_, ?_, ?_, ?_⟩
  · cbv
  · decide +kernel
  · decide +kernel
  · decide +kernel
  · decide +kernel

end Template
end BoundUpdate
