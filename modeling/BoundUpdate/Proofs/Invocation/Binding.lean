import BoundUpdate.Invocation.Context
import BoundUpdate.Proofs.Activity.Running

namespace BoundUpdate

/-!
# Binding

Binding looks values up and converts them; no operation on a unit takes part in
it.  It gives one value for every placeholder, and in a batch one list of them
for every row.  Unless it fails it writes nothing down.
-/

namespace Lookup

theorem keepsEvents_noteUnresolved (described : String) (failure : Failure) :
    (noteUnresolved described failure).KeepsEvents := by
  unfold noteUnresolved
  split
  · exact Act.keepsEvents_note _ _ _
  · exact Act.keepsEvents_pure _

theorem keepsEvents_follow (convention : AccessorConvention) (described : String) (v : Value)
    (path : List String) : (follow convention described v path).KeepsEvents := by
  induction path generalizing v with
  | nil => exact Act.keepsEvents_pure v
  | cons name rest ih =>
    unfold follow
    split
    · exact Act.keepsEvents_pure _
    · refine (Act.keepsEvents_probe _).attempt.bind fun outcome => ?_
      split
      · exact ih _
      · exact (keepsEvents_noteUnresolved _ _).bind fun _ => Act.keepsEvents_throw _

theorem keepsEvents_resolve (convention : AccessorConvention) (p : Placeholder)
    (arguments : List Value) : (resolve convention p arguments).KeepsEvents := by
  unfold resolve
  split
  · exact keepsEvents_follow _ _ _ _
  · exact Act.keepsEvents_throw _

/-- Only a member that was not found is noted. -/
theorem countsOnly_follow (convention : AccessorConvention) (described : String) (v : Value)
    (path : List String) : (follow convention described v path).CountsOnly := by
  induction path generalizing v with
  | nil => exact Act.countsOnly_pure v
  | cons name rest ih =>
    unfold follow
    split
    · exact Act.countsOnly_pure _
    · have hread : (Act.attempt (Act.probe (member v name convention))).CountsOnly := by
        intro activity after outcome h
        cases h
        exact ⟨_, rfl⟩
      refine hread.bind fun outcome => ?_
      split
      · exact ih _
      · exact Act.countsOnly_bind_throw _ _

theorem countsOnly_resolve (convention : AccessorConvention) (p : Placeholder)
    (arguments : List Value) : (resolve convention p arguments).CountsOnly := by
  unfold resolve
  split
  · exact countsOnly_follow _ _ _ _
  · exact Act.countsOnly_throw _

end Lookup

namespace Spec

theorem keepsEvents_bindFrom (spec : Spec) {denoted : Placeholder → Act Value}
    (h : ∀ p, (denoted p).KeepsEvents) (position : Nat) (slots : List Placeholder) :
    (bindFrom spec denoted position slots).KeepsEvents := by
  induction slots generalizing position with
  | nil => exact Act.keepsEvents_pure []
  | cons p rest ih =>
    refine (h p).bind fun v => ?_
    refine (Act.keepsEvents_probe _).bind fun bound => ?_
    exact (ih (position + 1)).map _

theorem keepsEvents_bindAll (spec : Spec) (convention : AccessorConvention)
    (arguments : List Value) : (spec.bindAll convention arguments).KeepsEvents :=
  spec.keepsEvents_bindFrom (fun p => Lookup.keepsEvents_resolve convention p arguments) 1 _

theorem countsOnly_bindAll (spec : Spec) (convention : AccessorConvention)
    (arguments : List Value) : (spec.bindAll convention arguments).CountsOnly := by
  unfold bindAll
  generalize 1 = position
  induction spec.template.placeholders generalizing position with
  | nil => exact Act.countsOnly_pure []
  | cons p rest ih =>
    refine (Lookup.countsOnly_resolve convention p arguments).bind fun v => ?_
    refine (Act.countsOnly_probe _).bind fun bound => ?_
    exact (ih (position + 1)).bind fun others => Act.countsOnly_pure _

theorem length_of_bindFrom {spec : Spec} {denoted : Placeholder → Act Value} {position : Nat}
    {slots : List Placeholder} {activity after : Activity} {values : List Value}
    (h : bindFrom spec denoted position slots activity = (.ok values, after)) :
    values.length = slots.length := by
  induction slots generalizing position activity values with
  | nil =>
    cases h
    rfl
  | cons p rest ih =>
    obtain ⟨v, _, -, h⟩ := Act.exists_of_bind_run_ok h
    obtain ⟨bound, _, -, h⟩ := Act.exists_of_bind_run_ok h
    obtain ⟨others, _, hothers, h⟩ := Act.exists_of_bind_run_ok h
    cases h
    rw [List.length_cons, List.length_cons, ih hothers]

/-- There is one value for every placeholder. -/
theorem length_of_bindAll {spec : Spec} {convention : AccessorConvention} {arguments : List Value}
    {activity after : Activity} {values : List Value}
    (h : spec.bindAll convention arguments activity = (.ok values, after)) :
    values.length = spec.template.placeholders.length := length_of_bindFrom h

end Spec

namespace Invocation

theorem keepsEvents_bindRow (spec : Spec) (convention : AccessorConvention)
    (items : List (Probe Value)) : (bindRow spec convention items).KeepsEvents :=
  (Act.keepsEvents_probe _).bind fun row => spec.keepsEvents_bindAll convention row

theorem countsOnly_bindRow (spec : Spec) (convention : AccessorConvention)
    (items : List (Probe Value)) : (bindRow spec convention items).CountsOnly :=
  (Act.countsOnly_probe _).bind fun row => spec.countsOnly_bindAll convention row

theorem keepsEvents_bindRows (spec : Spec) (convention : AccessorConvention)
    (rows : List (List (Probe Value))) : (bindRows spec convention rows).KeepsEvents := by
  induction rows with
  | nil => exact Act.keepsEvents_pure []
  | cons items rest ih =>
    refine (keepsEvents_bindRow spec convention items).bind fun values => ?_
    exact ih.map _

theorem countsOnly_bindRows (spec : Spec) (convention : AccessorConvention)
    (rows : List (List (Probe Value))) : (bindRows spec convention rows).CountsOnly := by
  induction rows with
  | nil => exact Act.countsOnly_pure []
  | cons items rest ih =>
    refine (countsOnly_bindRow spec convention items).bind fun values => ?_
    exact ih.bind fun others => Act.countsOnly_pure _

/-- There is one list of values for every row, with one value for every placeholder. -/
theorem lengths_of_bindRows {spec : Spec} {convention : AccessorConvention}
    {rows : List (List (Probe Value))} {sets : List (List Value)} {activity after : Activity}
    (h : bindRows spec convention rows activity = (.ok sets, after)) :
    sets.length = rows.length ∧
      ∀ values ∈ sets, values.length = spec.template.placeholders.length := by
  induction rows generalizing activity sets with
  | nil =>
    cases h
    exact ⟨rfl, fun values hvalues => nomatch hvalues⟩
  | cons row rest ih =>
    obtain ⟨values, _, hvalues, h⟩ := Act.exists_of_bind_run_ok h
    obtain ⟨others, _, hothers, h⟩ := Act.exists_of_bind_run_ok h
    cases h
    obtain ⟨hlength, hall⟩ := ih hothers
    refine ⟨by rw [List.length_cons, List.length_cons, hlength], ?_⟩
    intro set hset
    rcases List.mem_cons.1 hset with rfl | hset
    · obtain ⟨row, _, -, hvalues⟩ := Act.exists_of_bind_run_ok hvalues
      exact Spec.length_of_bindAll hvalues
    · exact hall set hset

/-- Binding makes nothing observable. -/
theorem keepsEvents_bind (spec : Spec) (convention : AccessorConvention)
    (arguments : List Value) : (bind spec convention arguments).KeepsEvents := by
  unfold bind
  split
  · refine (Act.keepsEvents_probe _).bind fun columns => ?_
    exact (keepsEvents_bindRows spec convention _).map _
  · exact (spec.keepsEvents_bindAll convention arguments).map _

/-- Binding that does not fail writes nothing down. -/
theorem countsOnly_bind (spec : Spec) (convention : AccessorConvention)
    (arguments : List Value) : (bind spec convention arguments).CountsOnly := by
  unfold bind
  split
  · refine (Act.countsOnly_probe _).bind fun columns => ?_
    exact (countsOnly_bindRows spec convention _).bind fun sets => Act.countsOnly_pure _
  · exact (spec.countsOnly_bindAll convention arguments).bind fun values => Act.countsOnly_pure _

/-- What a bound invocation was bound to. -/
theorem bind_cases {spec : Spec} {convention : AccessorConvention} {arguments : List Value}
    {activity after : Activity} {c : Invocation}
    (h : bind spec convention arguments activity = (.ok c, after)) :
    (spec.isBatch = false ∧ ∃ values,
      spec.bindAll convention arguments activity = (.ok values, after) ∧
        c = { arguments, parameterSets := [values], state := .singleBound }) ∨
    (spec.isBatch = true ∧ ∃ n columns between sets,
      Act.probe (Batch.columns arguments) activity = (.ok (n, columns), between) ∧
      bindRows spec convention (Batch.rows n columns) between = (.ok sets, after) ∧
        c = { arguments, parameterSets := sets, batchLength := some n, state := .batchBound }) := by
  unfold bind at h
  split at h
  case isTrue hbatch =>
    right
    obtain ⟨⟨n, columns⟩, between, hcolumns, h⟩ := Act.exists_of_bind_run_ok h
    obtain ⟨sets, _, hsets, h⟩ := Act.exists_of_bind_run_ok h
    cases h
    exact ⟨hbatch, n, columns, between, sets, hcolumns, hsets, rfl⟩
  case isFalse hsingle =>
    left
    obtain ⟨values, _, hvalues, h⟩ := Act.exists_of_bind_run_ok h
    cases h
    exact ⟨Bool.eq_false_iff.2 hsingle, values, hvalues, rfl⟩

end Invocation
end BoundUpdate
