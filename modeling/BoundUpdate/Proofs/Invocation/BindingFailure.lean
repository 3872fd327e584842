import BoundUpdate.Invocation.Context
import BoundUpdate.Proofs.Conversion.Failing
import BoundUpdate.Proofs.Invocation.BatchShape
import BoundUpdate.Proofs.Lookup.Failing

namespace BoundUpdate

/-!
# Why binding fails

Binding a slot looks a value up and converts it.  Failures of both are reported
as failures of binding that have the original failure as their cause, with three
exceptions that are not caught: what fails while a value is read on the way, what
the standard conversion fails with and does not blame on the value, as when the
value lies too deep in itself, and what fails while the items of a batch are
read.
-/

open Lookup

/-- The failures of binding that are reported for the slot at a position. -/
inductive Spec.SlotFault (spec : Spec) (convention : AccessorConvention) (arguments : List Value)
    (position : Nat) (p : Placeholder) : BindingFault → Prop
  | argumentMissing :
      argument? p arguments = none →
      SlotFault spec convention arguments position p
        (.argumentMissing p.describe (Number.intText p.index) arguments.length)
  | member {v target : Value} {name : String} {fault : BindingFault} :
      argument? p arguments = some v → OnTheWay convention v p.path target name →
      MemberFault convention target name fault →
      SlotFault spec convention arguments position p fault
  | conversionFailed {v : Value} {raised : Failure} :
      MayGive (resolve convention p arguments) v →
      spec.converterAt (.int position) = .ok none → MayFail (Conversion.standard v) raised →
      blamesValue raised = true →
      SlotFault spec convention arguments position p
        (.conversionFailed spec.name v.typeName (Value.int position).plain raised.toCause)
  | converterFailed {v : Value} {c : Converter} {raised : Failure} :
      MayGive (resolve convention p arguments) v →
      spec.converterAt (.int position) = .ok (some c) → MayFail (c.apply v) raised →
      SlotFault spec convention arguments position p
        (.converterFailed spec.name c.label (Value.int position).plain raised.toCause)

/-- The failures of binding the slot at a position that are not reported: they leave binding as
they were raised. -/
inductive Spec.SlotLeak (spec : Spec) (convention : AccessorConvention) (arguments : List Value)
    (position : Nat) (p : Placeholder) (failure : Failure) : Prop
  /-- A value on the way of the placeholder fails to be read. -/
  | read {v target : Value} {name : String} :
      argument? p arguments = some v → OnTheWay convention v p.path target name →
      FailsToRead convention target name failure →
      SlotLeak spec convention arguments position p failure
  /-- The standard conversion fails, and neither with a wrong type nor with an invalid value. -/
  | conversion {v : Value} :
      MayGive (resolve convention p arguments) v →
      spec.converterAt (.int position) = .ok none → MayFail (Conversion.standard v) failure →
      blamesValue failure = false →
      SlotLeak spec convention arguments position p failure

/-- The failures of reading the items of batch arguments. -/
inductive Batch.FailsToRead (arguments : List Value) (failure : Failure) : Prop
  /-- An argument is asked whether it is a list or tuple, and for its length. -/
  | column {a : Value} :
      a ∈ arguments → MayFail (Batch.column? a) failure → FailsToRead arguments failure
  | item {a : Value} {item : Probe Value} :
      a ∈ arguments → item ∈ Batch.columnOf a → MayFail item failure →
      FailsToRead arguments failure

/-- The lists of arguments that placeholders refer to: the arguments themselves, or the rows of a
batch. -/
inductive Spec.RefersTo (spec : Spec) (arguments : List Value) : List Value → Prop
  | all : spec.isBatch = false → RefersTo spec arguments arguments
  | row {n i : Nat} {row : List Value} :
      spec.isBatch = true → Batch.HasLength arguments n → i < n →
      MayGive (Batch.readRow (Batch.rowAt arguments i)) row → RefersTo spec arguments row

namespace Batch

variable {arguments : List Value} {failure : Failure}

theorem failsOutside_of_mem_columnOf {a : Value} {item : Probe Value} (h : item ∈ columnOf a) :
    FailsOutside item := by
  unfold columnOf at h
  split at h
  case h_2 => cases h
  next items hitems =>
    have hcolumn : MayGive (column? a) (some items) := ⟨fun _ => 0, _, Prod.ext hitems rfl⟩
    unfold column? at hcolumn
    split at hcolumn
    · obtain rfl := Option.some.inj hcolumn.eq_of_pure
      obtain ⟨v, -, rfl⟩ := List.mem_map.1 h
      exact failsOutside_pure v
    · obtain ⟨isSequence, -, hcolumn⟩ := hcolumn.cases_of_bind
      split at hcolumn
      · obtain ⟨n, -, hcolumn⟩ := hcolumn.cases_of_bind
        obtain rfl := Option.some.inj hcolumn.eq_of_pure
        obtain ⟨i, -, rfl⟩ := List.mem_map.1 h
        exact failsOutside_itemOf a _
      · cases hcolumn.eq_of_pure

theorem FailsToRead.outside (h : FailsToRead arguments failure) : IsOutside failure := by
  rcases h with ⟨-, hcolumn⟩ | ⟨-, hitem, hfails⟩
  · exact failsOutside_column _ failure hcolumn
  · exact failsOutside_of_mem_columnOf hitem failure hfails

theorem of_mayFail_readRow {items : List (Probe Value)} (h : MayFail (readRow items) failure) :
    ∃ item ∈ items, MayFail item failure := by
  induction items with
  | nil => exact absurd h (not_mayFail_pure _)
  | cons item rest ih =>
    rcases h.cases_of_bind with hitem | ⟨v, -, h⟩
    · exact ⟨item, List.mem_cons_self, hitem⟩
    · obtain ⟨other, hother, hfails⟩ := ih h.of_map
      exact ⟨other, List.mem_cons_of_mem _ hother, hfails⟩

/-- An item of a row is an item of an argument. -/
theorem mem_columnOf_of_mem_rowAt {i : Nat} {item : Probe Value} (h : item ∈ rowAt arguments i) :
    ∃ a ∈ arguments, item ∈ columnOf a := by
  obtain ⟨column, hcolumn, hitem⟩ := List.mem_filterMap.1 h
  obtain ⟨a, ha, rfl⟩ := List.mem_map.1 hcolumn
  exact ⟨a, ha, List.mem_of_getElem? hitem⟩

end Batch

namespace Spec

variable {spec : Spec} {convention : AccessorConvention} {arguments : List Value}
  {p : Placeholder} {failure : Failure}

/-! ## Slots -/

theorem of_mayFail_reporting {conversion : Probe Value} {catches : Failure → Bool}
    {report : Cause → BindingFault} (h : MayFail (reporting conversion catches report) failure) :
    ∃ raised, MayFail conversion raised ∧
      (catches raised = true ∧ failure = .binding (report raised.toCause) ∨
        catches raised = false ∧ failure = raised) := by
  rcases h.cases_of_probe_attempt with ⟨converted, -, hgiven⟩ | ⟨raised, hraised, hfailed⟩
  · exact absurd hgiven (not_mayFail_pure _)
  · dsimp only at hfailed
    split at hfailed
    next hcaught => exact ⟨raised, hraised, .inl ⟨hcaught, hfailed.eq_of_throw⟩⟩
    next hleft =>
      exact ⟨raised, hraised, .inr ⟨Bool.eq_false_iff.2 hleft, hfailed.eq_of_throw⟩⟩

/-- An ordinary failure of a conversion is reported, unless it is one of the standard conversion
that is not blamed on the value. -/
theorem of_mayFail_bindSlot {v : Value} {position : Nat}
    (hv : MayGive (resolve convention p arguments) v)
    (h : MayFail (bindSlot spec v (.int position)) failure)
    (hordinary : failure.isOrdinary = true) :
    (∃ fault, failure = .binding fault ∧ SlotFault spec convention arguments position p fault) ∨
      SlotLeak spec convention arguments position p failure := by
  unfold bindSlot at h
  rcases hconverter : spec.converterAt (.int position) with fault | converter
  · rw [converterAt_int] at hconverter
    cases hconverter
  · rw [hconverter, Probe.ofExcept_ok_bind] at h
    cases converter with
    | none =>
      obtain ⟨raised, hraised, ⟨hblamed, hfailure⟩ | ⟨hleft, rfl⟩⟩ := of_mayFail_reporting h
      · exact .inl ⟨_, hfailure, .conversionFailed hv hconverter hraised hblamed⟩
      · exact .inr (.conversion hv hconverter hraised hleft)
    | some c =>
      obtain ⟨raised, hraised, ⟨-, hfailure⟩ | ⟨hleft, rfl⟩⟩ := of_mayFail_reporting h
      · exact .inl ⟨_, hfailure, .converterFailed hv hconverter hraised⟩
      · rw [hordinary] at hleft
        cases hleft

/-- An ordinary failure of a slot is reported, or it leaves. -/
theorem of_mayFail_slot {position : Nat}
    (h : MayFail (resolve convention p arguments) failure ∨
      ∃ v, MayGive (resolve convention p arguments) v ∧
        MayFail (bindSlot spec v (.int position)) failure)
    (hordinary : failure.isOrdinary = true) :
    (∃ fault, failure = .binding fault ∧ SlotFault spec convention arguments position p fault) ∨
      SlotLeak spec convention arguments position p failure := by
  rcases h with hlookup | ⟨v, hv, hconversion⟩
  · rcases of_mayFail_resolve hlookup with ⟨hnone, hfailure⟩ | ⟨v, target, name, hv, hway, hmember⟩
    · exact .inl ⟨_, hfailure, .argumentMissing hnone⟩
    · rcases of_mayFail_member hmember hordinary with hread | ⟨fault, hfailure, hfault⟩
      · exact .inr (.read hv hway hread)
      · exact .inl ⟨fault, hfailure, .member hv hway hfault⟩
  · exact of_mayFail_bindSlot hv hconversion hordinary

/-- What leaves is not a failure that the library made. -/
theorem SlotLeak.outside {position : Nat}
    (h : SlotLeak spec convention arguments position p failure) : IsOutside failure := by
  rcases h with ⟨-, -, hread⟩ | ⟨-, -, hfails, -⟩
  · exact hread.outside
  · exact Conversion.failsOutside_standard _ _ failure hfails

/-- Binding some slots fails as looking up or converting the value of one of them does. -/
theorem of_mayFail_bindFrom {denoted : Placeholder → Act Value} {position : Nat}
    {slots : List Placeholder} (h : MayFail (bindFrom spec denoted position slots) failure) :
    ∃ i p, slots[i]? = some p ∧ (MayFail (denoted p) failure ∨
      ∃ v, MayGive (denoted p) v ∧
        MayFail (bindSlot spec v (.int ((position + i : Nat) : Int))) failure) := by
  induction slots generalizing position with
  | nil => exact absurd h (not_mayFail_pure _)
  | cons p rest ih =>
    rcases h.cases_of_bind with hlookup | ⟨v, hv, h⟩
    · exact ⟨0, p, rfl, .inl hlookup⟩
    · rcases h.cases_of_bind with hconversion | ⟨bound, -, h⟩
      · exact ⟨0, p, rfl, .inr ⟨v, hv, hconversion.of_probe⟩⟩
      · obtain ⟨i, other, hother, hfailed⟩ := ih h.of_map
        have hposition : position + (i + 1) = position + 1 + i := by omega
        rw [← hposition] at hfailed
        exact ⟨i + 1, other, hother, hfailed⟩

end Spec

namespace Invocation

variable {spec : Spec} {convention : AccessorConvention} {arguments : List Value}
  {activity after : Activity} {failure : Failure}

theorem of_mayFail_bindRows {rows : List (List (Probe Value))}
    (h : MayFail (bindRows spec convention rows) failure) :
    ∃ items ∈ rows, MayFail (bindRow spec convention items) failure := by
  induction rows with
  | nil => exact absurd h (not_mayFail_pure _)
  | cons items rest ih =>
    rcases h.cases_of_bind with hrow | ⟨values, -, h⟩
    · exact ⟨items, List.mem_cons_self, hrow⟩
    · obtain ⟨other, hother, hfailed⟩ := ih h.of_map
      exact ⟨other, List.mem_cons_of_mem _ hother, hfailed⟩

theorem of_mayFail_bindRow {items : List (Probe Value)}
    (h : MayFail (bindRow spec convention items) failure) :
    (∃ item ∈ items, MayFail item failure) ∨
      ∃ row, MayGive (Batch.readRow items) row ∧
        MayFail (spec.bindAll convention row) failure := by
  rcases h.cases_of_bind with hread | ⟨row, hrow, h⟩
  · exact .inl (Batch.of_mayFail_readRow hread.of_probe)
  · exact .inr ⟨row, hrow.of_probe, h⟩

/-- Binding fails by the shape of a batch, by reading its items, or as binding one list of arguments
does. -/
theorem of_mayFail_bind (h : MayFail (bind spec convention arguments) failure) :
    (∃ fault, failure = .batchShape fault ∧ spec.isBatch = true ∧ Batch.Misshapen arguments) ∨
    (spec.isBatch = true ∧ Batch.FailsToRead arguments failure) ∨
    ∃ row, spec.RefersTo arguments row ∧ MayFail (spec.bindAll convention row) failure := by
  unfold bind at h
  split at h
  case isTrue hbatch =>
    rcases h.cases_of_bind with hcolumns | ⟨⟨n, columns⟩, hcolumns, h⟩
    · rcases Batch.of_mayFail_columns hcolumns.of_probe with
        ⟨fault, hfault, hshape⟩ | ⟨a, ha, hfails⟩
      · exact .inl ⟨fault, hfault, hbatch, hshape⟩
      · exact .inr (.inl ⟨hbatch, .column ha hfails⟩)
    · obtain ⟨hlength, rfl⟩ := Batch.hasLength_of_columns hcolumns.of_probe
      obtain ⟨items, hitems, hfails⟩ := of_mayFail_bindRows h.of_map
      rw [Batch.rows_itemsOf] at hitems
      obtain ⟨i, hi, rfl⟩ := List.mem_map.1 hitems
      rcases of_mayFail_bindRow hfails with ⟨item, hitem, hfails⟩ | ⟨row, hrow, hfails⟩
      · obtain ⟨a, ha, hcolumn⟩ := Batch.mem_columnOf_of_mem_rowAt hitem
        exact .inr (.inl ⟨hbatch, .item ha hcolumn hfails⟩)
      · exact .inr (.inr ⟨row, .row hbatch hlength (List.mem_range.1 hi) hrow, hfails⟩)
  case isFalse hsingle =>
    exact .inr (.inr ⟨arguments, .all (Bool.eq_false_iff.2 hsingle), h.of_map⟩)

end Invocation
end BoundUpdate
