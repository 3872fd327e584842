import BoundUpdate.Proofs.Activity.Running
import BoundUpdate.Proofs.Failure.Sequence
import BoundUpdate.Proofs.Text.LowerCase
import BoundUpdate.Backend.Connector

namespace BoundUpdate

/-!
# Reading the autocommit mode

The settings know more words for false than the options of a connector do, and
they look past the blanks around a word.  Where both read a value, they agree on
what is true; of what is false the options miss the words that only the settings
know and every word with a blank next to it, and leave the mode on.
-/

namespace Coercion

variable {v : Value} {name : String} {b : Bool}

/-- What is read as a truth value has a text, whose word is a word for it. -/
theorem exists_word_of_toBool (h : toBool v name = .ok b) :
    ∃ s, v.plain? = .ok s ∧ wordOf s ∈ if b then trueWords else falseWords := by
  unfold toBool at h
  split at h
  · cases h
    cases b
    · exact ⟨"False", rfl, by decide +kernel⟩
    · exact ⟨"True", rfl, by decide +kernel⟩
  · obtain ⟨s, hs, h⟩ := except_bind_ok h
    refine ⟨s, hs, ?_⟩
    dsimp only at h
    split at h
    · next hword =>
      cases h
      simpa using hword
    · split at h
      · next hword =>
        cases h
        simpa using hword
      · cases h

end Coercion

namespace Connector

variable {options v : Value} {name s : String} {b : Bool}

/-! ## Words for false -/

/-- A text that turns the mode off has no blanks around its word. -/
theorem trim_of_off (h : Text.lowerString s ∈ offWords) : Text.trim s.toList = s.toList := by
  have hwords : ∀ word ∈ offWords, (word.toList.all fun c => !Text.isBlank c) = true := by
    decide +kernel
  refine Text.trim_of_not_isBlank (Text.not_isBlank_of_lower fun c hc => ?_)
  have hword := hwords _ h
  rw [Text.lowerString, String.toList_ofList, List.all_eq_true] at hword
  simpa using hword c hc

/-- The options know the words for false of the settings but two. -/
theorem mem_offWords_iff {word : String} :
    word ∈ offWords ↔ word ∈ Coercion.falseWords ∧ word ∉ ["off", ""] := by
  simp only [offWords, Coercion.falseWords, List.mem_cons, List.not_mem_nil, or_false, not_or]
  constructor
  · rintro (rfl | rfl | rfl) <;> decide +kernel
  · grind

theorem wordOf_of_trim (h : Text.trim s.toList = s.toList) :
    Coercion.wordOf s = Text.lowerString s := by
  rw [Coercion.wordOf, h, Text.lowerString]

theorem lowerString_not_mem_offWords (h : Coercion.wordOf s ∈ Coercion.trueWords) :
    Text.lowerString s ∉ offWords := by
  have hwords : ∀ word ∈ Coercion.trueWords, word ∉ offWords := by decide +kernel
  intro hoff
  rw [wordOf_of_trim (trim_of_off hoff)] at h
  exact hwords _ h hoff

/-- Whether the options read a text for false as the settings do. -/
structure ReadsOff (s : String) : Prop where
  trimmed : Text.trim s.toList = s.toList
  known : Coercion.wordOf s ∉ ["off", ""]

theorem lowerString_mem_offWords_iff (h : Coercion.wordOf s ∈ Coercion.falseWords) :
    Text.lowerString s ∈ offWords ↔ ReadsOff s := by
  constructor
  · intro hoff
    have htrim := trim_of_off hoff
    exact ⟨htrim, wordOf_of_trim htrim ▸ (mem_offWords_iff.1 hoff).2⟩
  · rintro ⟨htrim, hknown⟩
    exact wordOf_of_trim htrim ▸ mem_offWords_iff.2 ⟨h, hknown⟩

/-! ## The option -/

theorem autocommitOf_eq (hoption : option options "autocommit" (.bool true) = .ok v)
    (hplain : v.plain? = .ok s) :
    autocommitOf options = .ok (!offWords.contains (Text.lowerString s)) := by
  rw [autocommitOf, hoption, except_ok_bind, hplain]
  rfl

theorem autocommitOf_of_make {e : DatabaseEntry} {opens : Connection} {start made : Activity}
    {c : Connector} (h : make e opens start = (.ok c, made)) :
    autocommitOf c.options = .ok c.autocommit := by
  obtain ⟨type, _, -, h⟩ := Act.exists_of_bind_run_ok h
  obtain ⟨chosen, _, -, h⟩ := Act.exists_of_bind_run_ok h
  obtain ⟨on, _, hon, h⟩ := Act.exists_of_bind_run_ok h
  obtain ⟨held, _, -, h⟩ := Act.exists_of_bind_run_ok h
  obtain ⟨key, _, -, h⟩ := Act.exists_of_bind_run_ok h
  cases h
  exact congrArg Prod.fst hon

/-- Where the settings read the option for the autocommit mode as a truth value, a connector can be
told it too, and has the mode that the settings read, unless they read false in a word that the
options do not know or that has a blank next to it. -/
theorem autocommit_read_alike_iff (hoption : option options "autocommit" (.bool true) = .ok v)
    (hread : Coercion.toBool v name = .ok b) :
    ∃ s on, v.plain? = .ok s ∧ autocommitOf options = .ok on ∧
      (on = b ↔ b = true ∨ ReadsOff s) ∧
      ∀ e opens start c made, make e opens start = (.ok c, made) → c.options = options →
        c.autocommit = on := by
  obtain ⟨s, hplain, hword⟩ := Coercion.exists_word_of_toBool hread
  have hon := autocommitOf_eq hoption hplain
  refine ⟨s, _, hplain, hon, ?_, ?_⟩
  · cases b with
    | true => simpa using lowerString_not_mem_offWords hword
    | false =>
      have hoff := lowerString_mem_offWords_iff hword
      simpa using hoff
  · intro e opens start c made hmake hoptions
    have hmade := autocommitOf_of_make hmake
    rw [hoptions, hon] at hmade
    exact (Except.ok.inj hmade).symm

/-- A word that both know, in another letter case. -/
theorem autocommit_read_alike_in_capitals :
    let options : Value := .dict [(.text "autocommit", .text "NO")]
    Coercion.toBool (.text "NO") "autocommit" = .ok false ∧ ReadsOff "NO" ∧
      autocommitOf options = .ok false := by
  intro options
  have hread : Coercion.toBool (.text "NO") "autocommit" = .ok false := by rfl
  have hoff : ReadsOff "NO" := ⟨by decide +kernel, by decide +kernel⟩
  have hoption : option options "autocommit" (.bool true) = .ok (.text "NO") := by rfl
  obtain ⟨s, on, hplain, hon, halike, -⟩ := autocommit_read_alike_iff hoption hread
  cases hplain
  rw [halike.2 (.inr hoff)] at hon
  exact ⟨hread, hoff, hon⟩

/-- The settings read this word as false, and the mode is left on. -/
theorem autocommit_left_on :
    let e : DatabaseEntry :=
      { type := .text "sqlite", options := .dict [(.text "autocommit", .text "off")] }
    let start : Activity := { replacement := some { serial := 0, settings := {} } }
    Coercion.toBool (.text "off") "autocommit" = .ok false ∧
      ∃ c, make e {} start = (.ok c, start) ∧ c.autocommit = true := by
  intro e start
  exact ⟨by rfl, _, by rfl, by rfl⟩

end Connector
end BoundUpdate
