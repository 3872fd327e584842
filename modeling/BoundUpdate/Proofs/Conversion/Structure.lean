import BoundUpdate.Conversion.Standard
import BoundUpdate.Proofs.Lookup.Reading

namespace BoundUpdate
namespace Conversion

/-!
# What the standard conversion leaves to the driver

A driver takes no members of enumerations, no dictionaries and no rows of
dictionaries.  The standard conversion takes one step: it writes dictionaries and
rows as text and replaces a member by its value.  A text needs no second step,
but the value of a member is bound as it is.  So what is left to the driver has
structure exactly if it is the value of a member and that value has some.  What
an object is, it may tell itself.
-/

open Lookup

variable {nesting : Nat} {v w : Value}

/-- A value tells that it is a member of an enumeration. -/
def TellsMember (v : Value) : Prop := MayGive (tells v enumerationClass) true

/-- A value is a dictionary, or tells that it is one. -/
def IsDictionary (v : Value) : Prop := v.isDict = true ∨ MayGive (tells v "dict") true

/-- What no driver takes: a member of an enumeration, a dictionary, or a list or tuple whose first
item is a dictionary; or an object that tells that it is one of these. -/
inductive Structural : Value → Prop
  | member (m : EnumMember Value) : Structural (.enumMember m)
  | told {v : Value} : TellsMember v → Structural v
  | dictionary {v : Value} : IsDictionary v → Structural v
  | rows {v first : Value} {rest : List Value} :
      v.sequence? = some (first :: rest) → IsDictionary first → Structural v
  | toldRows {v first : Value} :
      v.sequence? = none → MayGive (tellsSequence v) true → v.truth = .ok true →
      MayGive (itemOf v (.int 0)) first → IsDictionary first → Structural v

/-- Nothing fails when a value is asked whether a driver takes it. -/
structure CanBeAsked (v : Value) : Prop where
  member : ∀ failure, ¬ MayFail (tells v enumerationClass) failure
  dictionary : ∀ failure, ¬ MayFail (countsAsDict v) failure
  rows : ∀ failure, ¬ MayFail (holdsDicts v) failure

/-- The value of a member of an enumeration, or of an object that tells that it is one. -/
inductive HasValue : Value → Value → Prop
  | member (m : EnumMember Value) : HasValue (.enumMember m) m.value
  | told {v : Value} {found : Attribute} :
      TellsMember v → MayGive (readAttribute v "value") found → HasValue v found.toValue

/-! ## Asking whether a driver takes a value -/

theorem steady_countsAsDict (v : Value) : Steady (countsAsDict v) := by
  unfold countsAsDict
  split
  · exact steady_pure _
  · exact steady_tells v _

theorem steady_countsAsSequence (v : Value) : Steady (countsAsSequence v) := by
  unfold countsAsSequence
  split
  · exact steady_pure _
  · exact steady_tellsSequence v

theorem steadyBut_firstOf (v : Value) : SteadyBut IsInteger (firstOf v) := by
  unfold firstOf
  split
  · exact .inl (steady_pure _)
  · exact steadyBut_itemOf v _

theorem steady_holdsDicts (v : Value) : Steady (holdsDicts v) := by
  refine (steady_countsAsSequence v).bind fun isSequence _ => ?_
  split
  · refine (steady_ofExcept _).bind fun isTrue _ => ?_
    split
    · -- an integer is no dictionary, whichever one it is
      refine (steadyBut_firstOf v).bind steady_countsAsDict (.ok false) ?_
      rintro _ ⟨n, rfl⟩ counts
      rfl
    · exact steady_pure _
  · exact steady_pure _

theorem isDictionary_iff : IsDictionary v ↔ MayGive (countsAsDict v) true := by
  unfold IsDictionary countsAsDict
  by_cases h : v.isDict = true
  · rw [if_pos h]
    exact iff_of_true (.inl h) (alwaysGives_pure true).mayGive
  · rw [if_neg h]
    exact or_iff_right h

theorem not_isInteger_of_isDictionary (h : IsDictionary v) : ¬ IsInteger v := by
  rintro ⟨n, rfl⟩
  rcases h with hdict | htold
  · cases hdict
  · cases htold.eq_of_pure

theorem truth_of_sequence {items : List Value} (h : v.sequence? = some items) :
    v.truth = .ok !items.isEmpty := by
  cases v <;> cases h <;> rfl

/-- The lists and tuples whose first item is a dictionary, and what tells that it is one. -/
theorem mayGive_holdsDicts (h : MayGive (holdsDicts v) true) : Structural v := by
  obtain ⟨isSequence, hsequence, h⟩ := h.cases_of_bind
  split at h
  case isFalse => cases h.eq_of_pure
  case isTrue hcounts =>
    obtain ⟨isTrue, htrue, h⟩ := h.cases_of_bind
    split at h
    case isFalse => cases h.eq_of_pure
    case isTrue htruthy =>
      obtain ⟨first, hfirst, hdict⟩ := h.cases_of_bind
      have htruth : v.truth = .ok true := by
        obtain ⟨counts, after, hrun⟩ := htrue
        exact htruthy ▸ (Prod.mk.inj hrun).1
      cases hitems : v.sequence? with
      | none =>
        rw [countsAsSequence, hitems] at hsequence
        rw [firstOf, hitems] at hfirst
        exact .toldRows hitems (hcounts ▸ hsequence) htruth hfirst (isDictionary_iff.2 hdict)
      | some items =>
        rw [truth_of_sequence hitems] at htruth
        cases items with
        | nil => cases htruth
        | cons item rest =>
          rw [firstOf, hitems] at hfirst
          obtain rfl := hfirst.eq_of_pure
          exact .rows hitems (isDictionary_iff.2 hdict)

theorem alwaysGives_holdsDicts {first : Value} (hsequence : AlwaysGives (countsAsSequence v) true)
    (htruth : v.truth = .ok true) (hfirst : AlwaysGives (firstOf v) first)
    (hdict : IsDictionary first) : AlwaysGives (holdsDicts v) true := by
  have htrue : AlwaysGives (Probe.ofExcept v.truth) true := fun _ => htruth
  have hcounts : AlwaysGives (countsAsDict first) true :=
    (steady_countsAsDict first).alwaysGives (isDictionary_iff.1 hdict)
  exact hsequence.bind (htrue.bind (hfirst.bind hcounts))

/-- Besides members of enumerations, what no driver takes is what the conversion finds. -/
theorem Structural.cases_of_not_member (h : Structural v) (hother : ∀ m, v ≠ .enumMember m) :
    TellsMember v ∨ MayGive (countsAsDict v) true ∨ MayGive (holdsDicts v) true := by
  cases h with
  | member m => exact absurd rfl (hother m)
  | told htold => exact .inl htold
  | dictionary hdict => exact .inr (.inl (isDictionary_iff.1 hdict))
  | rows hitems hdict =>
    refine .inr (.inr (alwaysGives_holdsDicts ?_ (truth_of_sequence hitems) ?_ hdict).mayGive)
    · rw [countsAsSequence, hitems]
      exact alwaysGives_pure true
    · rw [firstOf, hitems]
      exact alwaysGives_pure _
  | toldRows hitems htold htruth hfirst hdict =>
    refine .inr (.inr (alwaysGives_holdsDicts ?_ htruth ?_ hdict).mayGive)
    · rw [countsAsSequence, hitems]
      exact (steady_tellsSequence v).alwaysGives htold
    · rw [firstOf, hitems]
      exact (steadyBut_itemOf v _).alwaysGives hfirst (not_isInteger_of_isDictionary hdict)

/-- What a driver takes, if it can be asked for that, is bound as it is. -/
theorem standard_gives_self (hplain : ¬ Structural v) (hasked : CanBeAsked v) (nesting : Nat) :
    AlwaysGives (standard v nesting) v := by
  have hmember : AlwaysGives (tells v enumerationClass) false :=
    alwaysGives_false hasked.member fun h => hplain (.told h)
  have hdict : AlwaysGives (countsAsDict v) false :=
    alwaysGives_false hasked.dictionary fun h =>
      hplain (.dictionary (isDictionary_iff.2 h))
  have hrows : AlwaysGives (holdsDicts v) false :=
    alwaysGives_false hasked.rows fun h => hplain (mayGive_holdsDicts h)
  unfold standard
  split
  case h_1 m => exact absurd (.member m) hplain
  case h_2 => exact hmember.bind (hdict.bind (hrows.bind (alwaysGives_pure v)))

theorem not_structural_text (s : String) : ¬ Structural (.text s) := by
  intro h
  rcases h.cases_of_not_member (fun _ hsame => by cases hsame) with htold | hdict | hrows
  · cases htold.eq_of_pure
  · cases hdict.eq_of_pure
  · cases hrows.eq_of_pure

theorem canBeAsked_text (s : String) : CanBeAsked (.text s) where
  member _ := not_mayFail_pure false
  dictionary _ := not_mayFail_pure false
  rows _ := not_mayFail_pure false

/-! ## What the conversion answers -/

/-- How a value is converted: a member of an enumeration to its value, another value that no driver
takes to a text, and every other one to itself. -/
inductive Converted : Value → Value → Prop
  | value {v w : Value} : HasValue v w → Converted v w
  | written {v : Value} (s : String) : (∀ w, ¬ HasValue v w) → Structural v →
      Converted v (.text s)
  | kept {v : Value} : (∀ w, ¬ HasValue v w) → ¬ Structural v → CanBeAsked v → Converted v v

theorem not_hasValue (hother : ∀ m, v ≠ .enumMember m)
    (hmember : AlwaysGives (tells v enumerationClass) false) (w : Value) : ¬ HasValue v w := by
  intro h
  cases h with
  | member m => exact hother m rfl
  | told htold _ => cases ((steady_tells v _).alwaysGives htold).unique hmember

theorem standard_of_isDict (hdict : v.isDict = true) (nesting : Nat) :
    standard v nesting = jsonText nesting v := by
  cases v with
  | dict entries => rfl
  | selfDict => rfl
  | _ => cases hdict

theorem holdsDicts_of_rows {first : Value} {rest : List Value}
    (hitems : v.sequence? = some (first :: rest)) : holdsDicts v = countsAsDict first := by
  have hcounts : countsAsSequence v = pure true := by rw [countsAsSequence, hitems]; rfl
  rw [holdsDicts, hcounts, truth_of_sequence hitems, firstOf, hitems]
  rfl

theorem standard_of_rows {first : Value} {rest : List Value}
    (hitems : v.sequence? = some (first :: rest)) (hfirst : first.isDict = true) (nesting : Nat) :
    standard v nesting = jsonText nesting (.list (first :: rest)) := by
  have hsilent : tellsClass v = false := by cases v <;> first | rfl | cases hitems
  have hdict : countsAsDict v = pure false := by cases v <;> first | rfl | cases hitems
  have hrows : holdsDicts v = pure true := by
    rw [holdsDicts_of_rows hitems, countsAsDict, if_pos hfirst]
  unfold standard
  split
  · cases hitems
  · rw [tells_of_silent hsilent, hdict, hrows, itemsOf, hitems]
    rfl

theorem jsonText_of_text {s : String} (h : Json.text v nesting = .ok s) :
    jsonText nesting v = pure (.text s) := by
  rw [jsonText, h]

theorem mayGive_jsonText {text : Value} (h : MayGive (jsonText nesting v) text) :
    ∃ s, text = .text s := by
  unfold jsonText at h
  split at h
  · exact ⟨_, h.eq_of_pure⟩
  · exact absurd h not_mayGive_throw
  · obtain ⟨name, -, h⟩ := h.cases_of_bind
    exact absurd h not_mayGive_throw

theorem converted_of_standard (h : MayGive (standard v nesting) w) : Converted v w := by
  unfold standard at h
  split at h
  case h_1 m => exact h.eq_of_pure ▸ .value (.member m)
  case h_2 hother =>
    obtain ⟨isMember, htold, h⟩ := h.cases_of_bind
    cases isMember with
    | true =>
      obtain ⟨found, hfound, h⟩ := h.cases_of_bind
      exact h.eq_of_pure ▸ .value (.told htold hfound)
    | false =>
      have hmember := (steady_tells v _).alwaysGives htold
      have hvalue := not_hasValue hother hmember
      obtain ⟨isDict, hdict, h⟩ := h.cases_of_bind
      cases isDict with
      | true =>
        obtain ⟨s, rfl⟩ := mayGive_jsonText h
        exact .written s hvalue (.dictionary (isDictionary_iff.2 hdict))
      | false =>
        obtain ⟨hasRows, hrows, h⟩ := h.cases_of_bind
        cases hasRows with
        | true =>
          obtain ⟨items, -, h⟩ := h.cases_of_bind
          obtain ⟨s, rfl⟩ := mayGive_jsonText h
          exact .written s hvalue (mayGive_holdsDicts hrows)
        | false =>
          obtain rfl := h.eq_of_pure
          have hdict := (steady_countsAsDict w).alwaysGives hdict
          have hrows := (steady_holdsDicts w).alwaysGives hrows
          -- each question always has one answer, so what was told excludes a structure
          refine .kept hvalue (fun hstructural => ?_) ⟨fun _ => hmember.not_mayFail,
            fun _ => hdict.not_mayFail, fun _ => hrows.not_mayFail⟩
          rcases hstructural.cases_of_not_member hother with htrue | htrue | htrue
          · cases ((steady_tells w _).alwaysGives htrue).unique hmember
          · cases ((steady_countsAsDict w).alwaysGives htrue).unique hdict
          · cases ((steady_holdsDicts w).alwaysGives htrue).unique hrows

/-- A member of an enumeration is greater than its value. -/
theorem value_ne_enumMember (m : EnumMember Value) : m.value ≠ .enumMember m := by
  intro hsame
  have hsize := congrArg sizeOf hsame
  obtain ⟨enumeration, name, value, base⟩ := m
  simp only [Value.enumMember.sizeOf_spec, EnumMember.mk.sizeOf_spec] at hsize
  omega

theorem HasValue.tellsMember_of_self (h : HasValue v w) (hself : w = v) : TellsMember v := by
  cases h with
  | member m => exact absurd hself (value_ne_enumMember m)
  | told htold _ => exact htold

/-- What is bound as it is, a driver takes, unless it tells that it is a member of an enumeration:
such an object may have itself as its value. -/
theorem not_structural_of_self (h : MayGive (standard v nesting) v) (htold : ¬ TellsMember v) :
    ¬ Structural v := by
  cases converted_of_standard h with
  | value hvalue => exact absurd (hvalue.tellsMember_of_self rfl) htold
  | written s _ _ => exact not_structural_text s
  | kept _ hplain _ => exact hplain

/-- What the standard conversion answers is taken by every driver and bound as it is a second time,
unless a member of an enumeration was converted whose value no driver takes, or cannot be asked for
that: the answer is this value as it is then, and no driver's value is bound as it is. -/
theorem standard_leaves_no_structure (h : MayGive (standard v nesting) w) :
    ((∀ value, HasValue v value → ¬ Structural value) → ¬ Structural w) ∧
    ((∀ value, HasValue v value → ¬ Structural value ∧ CanBeAsked value) →
      AlwaysGives (standard w nesting) w) ∧
    ∀ m, v = .enumMember m → Structural m.value →
      w = m.value ∧ (¬ TellsMember w → ¬ MayGive (standard w nesting) w) := by
  have hconverted := converted_of_standard h
  refine ⟨fun hplain => ?_, fun hplain => ?_, ?_⟩
  · cases hconverted with
    | value hvalue => exact hplain w hvalue
    | written s _ _ => exact not_structural_text s
    | kept _ hv _ => exact hv
  · cases hconverted with
    | value hvalue => exact standard_gives_self (hplain w hvalue).1 (hplain w hvalue).2 nesting
    | written s _ _ => exact standard_gives_self (not_structural_text s) (canBeAsked_text s) nesting
    | kept _ hv hasked => exact standard_gives_self hv hasked nesting
  · rintro m rfl hvalue
    -- the value is answered without a look at it
    obtain rfl := h.eq_of_pure
    exact ⟨rfl, fun htold hself => not_structural_of_self hself htold hvalue⟩

/-- Rows of dictionaries are written as a text, which is bound as it is. -/
theorem standard_leaves_no_structure_of_rows :
    let rows : Value := .tuple [.dict [(.text "a", .int 1)], .none]
    let text : Value := .text "[\x7b\"a\": 1\x7d, null]"
    MayGive (standard rows) text ∧ ¬ Structural text ∧ AlwaysGives (standard text) text := by
  intro rows text
  have hjson : Json.text (.list [.dict [(.text "a", .int 1)], .none]) =
      .ok "[\x7b\"a\": 1\x7d, null]" := by with_unfolding_all rfl
  have hstandard : MayGive (standard rows) text := by
    rw [standard_of_rows rfl rfl, jsonText_of_text hjson]
    exact (alwaysGives_pure text).mayGive
  have hvalue : ∀ value, ¬ HasValue rows value :=
    not_hasValue (fun m hm => Value.noConfusion hm) (alwaysGives_pure false)
  obtain ⟨hplain, hself, -⟩ := standard_leaves_no_structure hstandard
  exact ⟨hstandard, hplain fun value h => absurd h (hvalue value),
    hself fun value h => absurd h (hvalue value)⟩

/-- The dictionary that a member of an enumeration has as its value is left as it is, and a second
conversion writes it as a text.  An object that fails to tell its class is left as it is, too, and a
second conversion fails with it. -/
theorem standard_leaves_dictionary_of_member :
    let member := fun value : Value => Value.enumMember
      { enumeration := "Color", name := "RED", value, base := .plain }
    let entries : Value := .dict [(.text "a", .int 1)]
    let secret : Value := .object
      { name := "A", slots := [], call := none
        members := [("__class__", .property
          { name := "__class__", title := "A.__class__", receives := true, parameters := []
            action := .fail .runtime "hidden" })] } []
    (MayGive (standard (member entries)) entries ∧ Structural entries ∧
      ¬ MayGive (standard entries) entries ∧
      MayGive (standard entries) (.text "\x7b\"a\": 1\x7d")) ∧
    MayGive (standard (member secret)) secret ∧
      AlwaysFails (standard secret) (.raised .runtime "hidden") := by
  intro member entries secret
  have hentries : Structural entries := .dictionary (.inl rfl)
  have htold : ¬ TellsMember entries := fun h => by cases h.eq_of_pure
  have hjson : Json.text entries = .ok "\x7b\"a\": 1\x7d" := by with_unfolding_all rfl
  refine ⟨⟨(alwaysGives_pure entries).mayGive, hentries,
    fun hsame => not_structural_of_self hsame htold hentries, ?_⟩,
    (alwaysGives_pure secret).mayGive, fun _ => rfl⟩
  rw [standard_of_isDict rfl, jsonText_of_text hjson]
  exact (alwaysGives_pure _).mayGive

end Conversion
end BoundUpdate
