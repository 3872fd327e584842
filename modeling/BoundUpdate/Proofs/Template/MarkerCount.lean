import BoundUpdate.Proofs.Template.MarkerReading
import BoundUpdate.Text.Blank

namespace BoundUpdate
namespace Template

/-!
# How many markers a driver finds

A driver needs one value for every marker that it finds in statement text.  In
text that was rendered from a template it finds one for every placeholder.  When
text is cut at a place where no marker can go on, the markers of both parts add
up to those of the whole.
-/

/-- How many markers a driver finds that takes percent signs for their start; `none` when it meets a
percent sign that is neither doubled nor starts a marker. -/
def percentMarkers? : List Char → Option Nat
  | [] => some 0
  | '%' :: '%' :: rest => percentMarkers? rest
  | '%' :: 's' :: rest => (percentMarkers? rest).map (1 + ·)
  | '%' :: _ => none
  | _ :: rest => percentMarkers? rest

/-- How many markers of a style a driver finds, unless it refuses the text. -/
def markers? (style : MarkerStyle) (sql : List Char) : Option Nat :=
  match style with
  | .qmark => some (sql.count '?')
  | .format => percentMarkers? sql
  | .pyformat => percentMarkers? sql
  | .numeric => some (colonNames Number.isDigit sql).length
  | .named => some (colonNames isWord sql).length

/-- No marker in front of a text goes on in it. -/
def EndsMarkers (s : List Char) : Prop := ∀ c ∈ s.head?, c ≠ '%' ∧ c ≠ 's' ∧ isWord c = false

variable {s t : List Char} {n : Nat}

theorem EndsMarkers.any_isWord (h : EndsMarkers t) : t.head?.any isWord = false :=
  (Option.any_eq_false _ _).2 fun c hc => by simpa using (h c hc).2.2

theorem EndsMarkers.any_isDigit (h : EndsMarkers t) : t.head?.any Number.isDigit = false := by
  refine (Option.any_eq_false _ _).2 fun c hc => ?_
  have hword := (h c hc).2.2
  simp only [isWord, Bool.or_eq_false_iff] at hword
  simpa using hword.1.1

theorem isAlpha_eq_false {c : Char} (hupper : 65 ≤ c.toNat → 90 < c.toNat)
    (hlower : 97 ≤ c.toNat → 122 < c.toNat) : c.isAlpha = false := by
  refine Bool.or_eq_false_iff.2 ⟨decide_eq_false ?_, Bool.eq_false_iff.2 fun h => ?_⟩
  · rintro ⟨hlow, hhigh⟩
    exact absurd (hupper (UInt32.le_iff_toNat_le.1 hlow))
      (Nat.not_lt.2 (UInt32.le_iff_toNat_le.1 hhigh))
  · obtain ⟨hlow, hhigh⟩ := Bool.and_eq_true_iff.1 h
    exact absurd (hlower (UInt32.le_iff_toNat_le.1 (of_decide_eq_true hlow)))
      (Nat.not_lt.2 (UInt32.le_iff_toNat_le.1 (of_decide_eq_true hhigh)))

theorem isWord_of_isBlank {c : Char} (h : Text.isBlank c = true) : isWord c = false := by
  have hrange : c.toNat ≤ 32 ∨ 133 ≤ c.toNat := by
    simp only [Text.isBlank, Text.blankRanges, Text.CodeRanges.covers] at h
    grind
  have hunderscore : c ≠ '_' := by
    rintro rfl
    revert hrange
    decide
  have hdigit : 48 ≤ c.toNat → 57 < c.toNat := by omega
  have halpha : c.isAlpha = false := isAlpha_eq_false (by omega) (by omega)
  simp only [isWord, Number.isDigit, Bool.or_eq_false_iff, beq_eq_false_iff_ne]
  exact ⟨⟨by simpa using hdigit, halpha⟩, hunderscore⟩

/-! ## Cutting text -/

theorem percentMarkers?_cons {c : Char} (h : c ≠ '%') (rest : List Char) :
    percentMarkers? (c :: rest) = percentMarkers? rest := by
  rw [percentMarkers?]
  all_goals simp [h]

theorem map_zero_add (count : Option Nat) : count.map (0 + ·) = count := by
  cases count <;> simp

theorem map_add_map_add (i j : Nat) (count : Option Nat) :
    (count.map (j + ·)).map (i + ·) = count.map (i + j + ·) := by
  cases count <;> simp [Nat.add_assoc]

theorem percentMarkers?_append (h : percentMarkers? s = some n) (t : List Char) :
    percentMarkers? (s ++ t) = (percentMarkers? t).map (n + ·) := by
  fun_induction percentMarkers? s generalizing n with
  | case1 =>
    cases h
    exact (map_zero_add _).symm
  | case2 rest ih =>
    rw [List.cons_append, List.cons_append, percentMarkers?]
    exact ih h
  | case3 rest ih =>
    obtain ⟨k, hk, rfl⟩ := Option.map_eq_some_iff.1 h
    rw [List.cons_append, List.cons_append, percentMarkers?, ih hk, map_add_map_add]
  | case4 => cases h
  | case5 c rest _ _ hc ih => rw [List.cons_append, percentMarkers?_cons hc, ih h]

theorem percentMarkers?_of_head?_ne (hpercent : t.head? ≠ some '%') (hs : t.head? ≠ some 's') :
    percentMarkers? ('%' :: t) = none := by
  cases t with
  | nil => rfl
  | cons d t =>
    have hpercent : d ≠ '%' := by simpa using hpercent
    have hs : d ≠ 's' := by simpa using hs
    rw [percentMarkers?]
    · simp [hpercent]
    · simp [hs]

/-- When a driver does not refuse a text, it does not refuse a start of it from which no marker goes
on. -/
theorem exists_percentMarkers? (ht : EndsMarkers t) (h : percentMarkers? (s ++ t) = some n) :
    ∃ i, percentMarkers? s = some i := by
  fun_induction percentMarkers? s generalizing n with
  | case1 => exact ⟨0, rfl⟩
  | case2 rest ih => exact ih h
  | case3 rest ih =>
    obtain ⟨k, hk, -⟩ := Option.map_eq_some_iff.1 h
    obtain ⟨i, hi⟩ := ih hk
    exact ⟨1 + i, by rw [hi]; rfl⟩
  | case4 rest hpercent hs =>
    -- the percent sign is refused in front of whatever follows it
    have hhead : ∀ d : Char, (rest ++ t).head? = some d → d ≠ '%' ∧ d ≠ 's' := by
      intro d hd
      cases rest with
      | nil => exact ⟨(ht d hd).1, (ht d hd).2.1⟩
      | cons e rest =>
        cases hd
        exact ⟨fun heq => hpercent rest (by rw [heq]), fun heq => hs rest (by rw [heq])⟩
    rw [List.cons_append, percentMarkers?_of_head?_ne (fun hd => (hhead _ hd).1 rfl)
      fun hd => (hhead _ hd).2 rfl] at h
    cases h
  | case5 c rest _ _ hc ih =>
    rw [List.cons_append, percentMarkers?_cons hc] at h
    exact ih h

theorem takeWhile_append_of_head? {p : Char → Bool} (ht : t.head?.any p = false) (s : List Char) :
    (s ++ t).takeWhile p = s.takeWhile p := by
  induction s with
  | nil => exact takeWhile_eq_nil_iff.2 ht
  | cons c s ih =>
    rw [List.cons_append, List.takeWhile_cons, List.takeWhile_cons, ih]

theorem colonNames_append_of_head? {isName : Char → Bool} (ht : t.head?.any isName = false)
    (s : List Char) : colonNames isName (s ++ t) = colonNames isName s ++ colonNames isName t := by
  induction s with
  | nil => rfl
  | cons c s ih =>
    rw [List.cons_append, colonNames, colonNames, takeWhile_append_of_head? ht, ih]
    split <;> rfl

/-- Where no marker goes on, the markers of both parts add up. -/
theorem markers?_append (style : MarkerStyle) (ht : EndsMarkers t) (h : markers? style s = some n) :
    markers? style (s ++ t) = (markers? style t).map (n + ·) := by
  cases style with
  | qmark =>
    cases h
    exact congrArg some List.count_append
  | format => exact percentMarkers?_append h t
  | pyformat => exact percentMarkers?_append h t
  | numeric =>
    cases h
    rw [markers?, colonNames_append_of_head? ht.any_isDigit, List.length_append]
    rfl
  | named =>
    cases h
    rw [markers?, colonNames_append_of_head? ht.any_isWord, List.length_append]
    rfl

theorem exists_markers? (style : MarkerStyle) (ht : EndsMarkers t)
    (h : markers? style (s ++ t) = some n) : ∃ i, markers? style s = some i := by
  cases style with
  | qmark => exact ⟨_, rfl⟩
  | format => exact exists_percentMarkers? ht h
  | pyformat => exact exists_percentMarkers? ht h
  | numeric => exact ⟨_, rfl⟩
  | named => exact ⟨_, rfl⟩

/-! ## Rendered text -/

theorem percentMarkers?_literal {style : MarkerStyle} (hstyle : style.usesPercent = true)
    (text rest : List Char) :
    percentMarkers? (style.literal text ++ rest) = percentMarkers? rest := by
  rw [MarkerStyle.literal, if_pos hstyle]
  induction text with
  | nil => rfl
  | cons c text ih =>
    rw [List.flatMap_cons, List.append_assoc]
    by_cases hc : c = '%'
    · rw [if_pos hc]
      exact ih
    · rw [if_neg hc, List.cons_append, List.nil_append, percentMarkers?_cons hc, ih]

theorem Naming.length_colonNames {style : MarkerStyle} {isName : Char → Bool}
    {name : Nat → List Char} (h : Naming style isName name) (position : Nat) (rest : List Char) :
    (colonNames isName (style.marker position ++ rest)).length =
      1 + (colonNames isName rest).length := by
  rw [h.marker, List.cons_append, colonNames_marker (h.ne_nil position)
    (h.isName_of_mem position) h.colon, List.length_cons, Nat.add_comm]

theorem markers?_literal (style : MarkerStyle) {text : List Char} (hcolon : ':' ∉ text)
    (hquestion : '?' ∉ text) (rest : List Char) :
    markers? style (style.literal text ++ rest) = markers? style rest := by
  cases style with
  | qmark =>
    show some ((text ++ rest).count '?') = some (rest.count '?')
    rw [List.count_append, List.count_eq_zero.2 hquestion, Nat.zero_add]
  | format => exact percentMarkers?_literal rfl text rest
  | pyformat => exact percentMarkers?_literal rfl text rest
  | numeric => exact congrArg (some ·.length) (colonNames_append hcolon rest)
  | named => exact congrArg (some ·.length) (colonNames_append hcolon rest)

theorem literal_eq_self (style : MarkerStyle) {text : List Char} (h : '%' ∉ text) :
    style.literal text = text := by
  unfold MarkerStyle.literal
  split
  · induction text with
    | nil => rfl
    | cons c text ih =>
      obtain ⟨hc, htext⟩ := List.ne_and_not_mem_of_not_mem_cons h
      rw [List.flatMap_cons, if_neg (Ne.symm hc), ih htext, List.cons_append, List.nil_append]
  · rfl

/-- Text that holds no first character of a marker does not count. -/
theorem markers?_plain (style : MarkerStyle) {text : List Char} (hpercent : '%' ∉ text)
    (hcolon : ':' ∉ text) (hquestion : '?' ∉ text) (rest : List Char) :
    markers? style (text ++ rest) = markers? style rest := by
  rw [← markers?_literal style hcolon hquestion rest, literal_eq_self style hpercent]

theorem markers?_marker (style : MarkerStyle) (position : Nat) (rest : List Char) :
    markers? style (style.marker position ++ rest) = (markers? style rest).map (1 + ·) := by
  cases style with
  | qmark =>
    show some (('?' :: rest).count '?') = some (1 + rest.count '?')
    rw [List.count_cons_self, Nat.add_comm]
  | format => rfl
  | pyformat => rfl
  | numeric => exact congrArg some (naming_numeric.length_colonNames position rest)
  | named => exact congrArg some (naming_named.length_colonNames position rest)

/-- In rendered text a driver finds one marker for every placeholder. -/
theorem markers?_renderFrom (style : MarkerStyle) {segments : List Segment}
    (hplain : ∀ text, Segment.literal text ∈ segments → ':' ∉ text.toList ∧ '?' ∉ text.toList)
    (position : Nat) :
    markers? style (renderFrom style position segments) =
      some (segments.filterMap Segment.placeholder?).length := by
  induction segments generalizing position with
  | nil => cases style <;> rfl
  | cons segment segments ih =>
    have hrest := ih fun text htext => hplain text (List.mem_cons_of_mem _ htext)
    cases segment with
    | literal text =>
      obtain ⟨hcolon, hquestion⟩ := hplain text List.mem_cons_self
      rw [renderFrom, markers?_literal style hcolon hquestion, hrest]
      rfl
    | placeholder p =>
      rw [renderFrom, markers?_marker, hrest]
      exact congrArg some (Nat.add_comm 1 _)

theorem markers?_render (style : MarkerStyle) {t : Template}
    (hplain : ∀ text, Segment.literal text ∈ t.segments →
      ':' ∉ text.toList ∧ '?' ∉ text.toList) :
    markers? style (t.render style).toList = some t.placeholders.length := by
  rw [render, String.toList_ofList]
  exact markers?_renderFrom style hplain 1

end Template
end BoundUpdate
