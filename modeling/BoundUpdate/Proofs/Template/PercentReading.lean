import BoundUpdate.Template.Marker
import Mathlib.Tactic.Common

namespace BoundUpdate
namespace Template

/-!
# Statement text with percent signs, as a driver reads it

A driver goes over statement text from left to right: a doubled percent sign
stands for one, a marker for the next value, and a percent sign before anything
else is refused.  Values are not looked into.  On rendered text this undoes the
rendering: the driver sees the literals as they were written, with the values
at the places of the placeholders.
-/

/-- Why a driver refuses statement text. -/
inductive PercentFault where
  /-- A percent sign that is neither doubled nor starts a marker. -/
  | foreign (next : Option Char)
  /-- A marker that no value is left for. -/
  | noValue
  deriving DecidableEq, Repr

/-- Text in front of what a driver makes of the rest. -/
def putBefore (text : List Char) (seen : List Char × List (List Char)) :
    List Char × List (List Char) := (text ++ seen.1, seen.2)

/-- What a driver makes of statement text and values, with the values that it did not use. -/
def substitute : List Char → List (List Char) →
    Except PercentFault (List Char × List (List Char))
  | [], values => .ok ([], values)
  | '%' :: '%' :: rest, values => (substitute rest values).map (putBefore ['%'])
  | '%' :: 's' :: rest, value :: values => (substitute rest values).map (putBefore value)
  | '%' :: 's' :: _, [] => .error .noValue
  | '%' :: rest, _ => .error (.foreign rest.head?)
  | c :: rest, values => (substitute rest values).map (putBefore [c])

/-- The literals as they are written, with values in place of the placeholders, in order. -/
def filledWith : List Segment → List (List Char) → List Char
  | [], _ => []
  | .literal text :: segments, values => text.toList ++ filledWith segments values
  | .placeholder _ :: segments, value :: values => value ++ filledWith segments values
  | .placeholder _ :: segments, [] => filledWith segments []

theorem putBefore_append (first second : List Char) (seen : List Char × List (List Char)) :
    putBefore first (putBefore second seen) = putBefore (first ++ second) seen := by
  simp [putBefore]

theorem map_putBefore_append (first second : List Char)
    (seen : Except PercentFault (List Char × List (List Char))) :
    (seen.map (putBefore second)).map (putBefore first) =
      seen.map (putBefore (first ++ second)) := by
  cases seen with
  | error fault => rfl
  | ok seen => exact congrArg Except.ok (putBefore_append first second seen)

theorem map_putBefore_nil (seen : Except PercentFault (List Char × List (List Char))) :
    seen.map (putBefore []) = seen := by
  cases seen <;> rfl

theorem substitute_cons {c : Char} (h : c ≠ '%') (rest : List Char)
    (values : List (List Char)) :
    substitute (c :: rest) values = (substitute rest values).map (putBefore [c]) := by
  rw [substitute]
  all_goals simp [h]

/-- Doubled percent signs come out single, and all other literal text as it is. -/
theorem substitute_literal {style : MarkerStyle} (hstyle : style.usesPercent = true)
    (text rest : List Char) (values : List (List Char)) :
    substitute (style.literal text ++ rest) values =
      (substitute rest values).map (putBefore text) := by
  rw [MarkerStyle.literal, if_pos hstyle]
  induction text with
  | nil => exact (map_putBefore_nil _).symm
  | cons c text ih =>
    rw [List.flatMap_cons, List.append_assoc]
    by_cases hc : c = '%'
    · subst hc
      rw [if_pos rfl, List.cons_append, List.cons_append, List.nil_append, substitute, ih,
        map_putBefore_append]
      rfl
    · rw [if_neg hc, List.cons_append, List.nil_append, substitute_cons hc, ih,
        map_putBefore_append]
      rfl

theorem substitute_marker {style : MarkerStyle} (hstyle : style.usesPercent = true)
    (position : Nat) (rest value : List Char) (values : List (List Char)) :
    substitute (style.marker position ++ rest) (value :: values) =
      (substitute rest values).map (putBefore value) := by
  cases style with
  | format => rfl
  | pyformat => rfl
  | qmark => cases hstyle
  | numeric => cases hstyle
  | named => cases hstyle

/-- The driver uses up one value for every placeholder, and leaves the others. -/
theorem substitute_renderFrom {style : MarkerStyle} (hstyle : style.usesPercent = true)
    (segments : List Segment) (position : Nat) (values surplus : List (List Char))
    (hlength : values.length = (segments.filterMap Segment.placeholder?).length) :
    substitute (renderFrom style position segments) (values ++ surplus) =
      .ok (filledWith segments values, surplus) := by
  -- between two segments, the driver has the values of the placeholders still to come
  induction segments generalizing position values with
  | nil =>
    obtain rfl : values = [] := List.length_eq_zero_iff.1 hlength
    rfl
  | cons segment segments ih =>
    cases segment with
    | literal text =>
      have hrest := ih position values hlength
      rw [renderFrom, substitute_literal hstyle, hrest]
      rfl
    | placeholder p =>
      cases values with
      | nil => cases hlength
      | cons value values =>
        have hrest := ih (position + 1) values (Nat.succ.inj hlength)
        rw [renderFrom, List.cons_append, substitute_marker hstyle, hrest]
        rfl

/-- For a driver with percent markers, reading the rendered text gives the literals as they were
written, with one value in place of every placeholder. -/
theorem substitute_renderAs (t : Template) (word : String)
    (hword : word = "format" ∨ word = "pyformat") (values surplus : List (List Char))
    (hlength : values.length = t.placeholders.length) :
    ∃ sql, t.renderAs word = .ok sql ∧
      substitute sql.toList (values ++ surplus) = .ok (filledWith t.segments values, surplus) := by
  have hstyle : ∃ style : MarkerStyle, style.word = word ∧ style.usesPercent = true := by
    rcases hword with rfl | rfl
    · exact ⟨.format, rfl, rfl⟩
    · exact ⟨.pyformat, rfl, rfl⟩
  obtain ⟨style, rfl, hpercent⟩ := hstyle
  refine ⟨t.render style, renderAs_word t style, ?_⟩
  rw [render, String.toList_ofList]
  exact substitute_renderFrom hpercent t.segments 1 values surplus hlength

/-- A literal that ends in a percent sign before a marker, one that reads like a marker, and values
that hold percent signs themselves. -/
theorem substitute_renderAs_percent_signs :
    let t : Template := { source := "5%?1%s?2", segments :=
      [.literal "5%", .placeholder { index := 1 }, .literal "%s", .placeholder { index := 2 }] }
    ["%s".toList, "%%".toList].length = t.placeholders.length ∧
      ∃ sql, t.renderAs "format" = .ok sql ∧
        substitute sql.toList ["%s".toList, "%%".toList] = .ok ("5%%s%s%%".toList, []) := by
  intro t
  have hlength : ["%s".toList, "%%".toList].length = t.placeholders.length := rfl
  refine ⟨hlength, ?_⟩
  exact substitute_renderAs t "format" (.inl rfl) ["%s".toList, "%%".toList] [] hlength

end Template
end BoundUpdate
