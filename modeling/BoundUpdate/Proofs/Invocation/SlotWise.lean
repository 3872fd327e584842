import BoundUpdate.Proofs.Declaration.Converters
import BoundUpdate.Proofs.Invocation.RowWise

namespace BoundUpdate

/-!
# Slots of an update

The slots of an update are bound one after another, each by itself: what a slot
is bound to is what its placeholder denotes, converted by the converter at the
position of the slot.  When user code answers the same whenever it is asked, the
slots do not influence each other, and the first slot that cannot be bound
decides the failure.
-/

open Lookup

namespace Spec

/-- What the slot at a place, counted from zero, is bound to. -/
def slot (spec : Spec) (convention : AccessorConvention) (arguments : List Value) (i : Nat)
    (p : Placeholder) : Act Value := do
  let v ← resolve convention p arguments
  Act.probe (spec.bindSlot v (.int ((1 + i : Nat) : Int)))

/-- The converter at the place of a slot gives a value for another one; the standard conversion does
where there is none. -/
def Converts (spec : Spec) (i : Nat) (v bound : Value) : Prop :=
  match (spec.converters[i]?).join with
  | none => AlwaysGives (Conversion.standard v) bound
  | some c => AlwaysGives (c.apply v) bound

variable {spec : Spec} {convention : AccessorConvention} {arguments : List Value}
  {values : List Value} {activity : Activity}

/-! ## One slot -/

theorem converterAt_place (spec : Spec) (i : Nat) :
    spec.converterAt (.int ((1 + i : Nat) : Int)) = .ok (spec.converters[i]?).join := by
  have hlow : ¬ ((1 + i : Nat) : Int) < 1 := by omega
  have hplace : (((1 + i : Nat) : Int) - 1).toNat = i := by omega
  rw [converterAt_int, if_neg hlow, hplace]

theorem bindSlot_place (spec : Spec) (v : Value) (i : Nat) :
    spec.bindSlot v (.int ((1 + i : Nat) : Int)) =
      match (spec.converters[i]?).join with
      | none => bindStandard spec v (.int ((1 + i : Nat) : Int))
      | some c => bindWith spec c v (.int ((1 + i : Nat) : Int)) := by
  rw [bindSlot, converterAt_place]
  exact Probe.ofExcept_ok_bind _ _

theorem mayGive_of_reporting {conversion : Probe Value} {catches : Failure → Bool}
    {report : Cause → BindingFault} {bound : Value}
    (h : MayGive (reporting conversion catches report) bound) : MayGive conversion bound := by
  rcases h.cases_of_probe_attempt with ⟨converted, hgives, hbound⟩ | ⟨raised, -, hbound⟩
  · rwa [hbound.eq_of_pure]
  · dsimp only at hbound
    split at hbound
    · exact absurd hbound not_mayGive_throw
    · exact absurd hbound not_mayGive_throw

/-- What a slot is bound to is what its placeholder denotes, converted. -/
theorem exists_converts_of_slot {i : Nat} {p : Placeholder} {bound : Value}
    (hsteady : spec.IsSteadyOn convention arguments) (hp : p ∈ spec.template.placeholders)
    (h : MayGive (spec.slot convention arguments i p) bound) :
    ∃ v, AlwaysGives (resolve convention p arguments) v ∧ spec.Converts i v bound := by
  obtain ⟨activity, after, hrun⟩ := h
  obtain ⟨v, between, hv, hbound⟩ := Act.exists_of_bind_run_ok hrun
  have hgives : MayGive (resolve convention p arguments) v := ⟨activity, between, hv⟩
  have hslot : MayGive (spec.bindSlot v (.int ((1 + i : Nat) : Int))) bound :=
    MayGive.of_probe ⟨between, after, hbound⟩
  refine ⟨v, (steady_resolve (hsteady.members p hp)).alwaysGives hgives, ?_⟩
  rw [bindSlot_place] at hslot
  unfold Converts
  cases hconverter : (spec.converters[i]?).join with
  | none =>
    rw [hconverter] at hslot
    exact (hsteady.standard p hp v hgives).alwaysGives (mayGive_of_reporting hslot)
  | some c =>
    rw [hconverter] at hslot
    have hmem : some c ∈ spec.converters :=
      List.mem_of_getElem? (Option.join_eq_some_iff.1 hconverter)
    exact (hsteady.converters p hp v hgives c hmem).alwaysGives (mayGive_of_reporting hslot)

theorem IsSteadyOn.steady_slot (h : spec.IsSteadyOn convention arguments) {p : Placeholder}
    (hp : p ∈ spec.template.placeholders) (i : Nat) :
    Steady (spec.slot convention arguments i p) := by
  have : Nonempty Activity := ⟨{}⟩
  refine (steady_resolve (h.members p hp)).bind fun v hv => ?_
  exact (spec.steady_bindSlot (h.converters p hp v hv) (h.standard p hp v hv) _).probe

/-! ## All slots -/

theorem bindFrom_cons (n : Nat) (p : Placeholder) (rest : List Placeholder) :
    bindFrom spec (fun p => resolve convention p arguments) (1 + n) (p :: rest) =
      spec.slot convention arguments n p >>= fun bound =>
        bindFrom spec (fun p => resolve convention p arguments) (1 + (n + 1)) rest >>= fun others =>
          pure (bound :: others) := by
  rw [slot, bind_assoc]
  rfl

/-- The slots are bound one after another: all of them, or none behind the first one that fails. -/
theorem bindFrom_cases (n : Nat) {slots : List Placeholder}
    (hsteady : ∀ i p, slots[i]? = some p → Steady (spec.slot convention arguments (n + i) p))
    (activity : Activity) :
    (∃ values, (bindFrom spec (fun p => resolve convention p arguments) (1 + n) slots activity).1 =
        .ok values ∧ values.length = slots.length ∧
      ∀ i p, slots[i]? = some p → ∃ bound, values[i]? = some bound ∧
        AlwaysGives (spec.slot convention arguments (n + i) p) bound) ∨
    ∃ i p failure, slots[i]? = some p ∧
      AlwaysFails (spec.slot convention arguments (n + i) p) failure ∧
      (∀ j < i, ∀ q, slots[j]? = some q →
        ∃ bound, AlwaysGives (spec.slot convention arguments (n + j) q) bound) ∧
      (bindFrom spec (fun p => resolve convention p arguments) (1 + n) slots activity).1 =
        .error failure := by
  -- the place of the first slot and the traces that it finds change with every slot
  induction slots generalizing n activity with
  | nil => exact .inl ⟨[], rfl, rfl, nofun⟩
  | cons p rest ih =>
    have hshift : ∀ i, n + 1 + i = n + (i + 1) := fun i => by omega
    have hrest : ∀ i q, rest[i]? = some q →
        Steady (spec.slot convention arguments (n + 1 + i) q) := by
      intro i q hq
      rw [hshift]
      exact hsteady (i + 1) q hq
    have hhead : Steady (spec.slot convention arguments n p) := hsteady 0 p rfl
    rcases hhead.cases with ⟨bound, hbound⟩ | ⟨failure, hfails⟩
    · rw [bindFrom_cons, Act.bind_run_ok (Prod.ext (hbound activity) rfl), Act.map_run]
      rcases ih (n + 1) hrest (spec.slot convention arguments n p activity).2 with
        ⟨values, hvalues, hlength, hslots⟩ | ⟨i, q, failure, hq, hfails, hfirst, hfailed⟩
      · refine .inl ⟨bound :: values, ?_, ?_, fun i q hq => ?_⟩
        · rw [hvalues]
          rfl
        · rw [List.length_cons, List.length_cons, hlength]
        · cases i with
          | zero =>
            cases hq
            exact ⟨bound, rfl, hbound⟩
          | succ i =>
            rw [← hshift]
            exact hslots i q hq
      · refine .inr ⟨i + 1, q, failure, hq, hshift i ▸ hfails, fun j hj other hother => ?_, ?_⟩
        · cases j with
          | zero =>
            cases hother
            exact ⟨bound, hbound⟩
          | succ j =>
            rw [← hshift]
            exact hfirst j (Nat.lt_of_succ_lt_succ hj) other hother
        · rw [hfailed]
          rfl
    · refine .inr ⟨0, p, failure, rfl, hfails, fun j hj => absurd hj (Nat.not_lt_zero j), ?_⟩
      rw [bindFrom_cons, Act.bind_run_error (Prod.ext (hfails activity) rfl)]

/-- Every slot is bound to a value of its own. -/
structure IsBoundBySlots (spec : Spec) (convention : AccessorConvention)
    (arguments values : List Value) : Prop where
  length : values.length = spec.template.placeholders.length
  slot : ∀ i p, spec.template.placeholders[i]? = some p →
    ∃ bound, values[i]? = some bound ∧ AlwaysGives (spec.slot convention arguments i p) bound

/-- The slot at a place is the first one that fails. -/
structure FailsFirst (spec : Spec) (convention : AccessorConvention) (arguments : List Value)
    (i : Nat) (failure : Failure) : Prop where
  fails : ∃ p, spec.template.placeholders[i]? = some p ∧
    AlwaysFails (spec.slot convention arguments i p) failure
  before : ∀ j < i, ∀ p, spec.template.placeholders[j]? = some p →
    ∃ bound, AlwaysGives (spec.slot convention arguments j p) bound

theorem IsSteadyOn.bindAll_cases (h : spec.IsSteadyOn convention arguments) (activity : Activity) :
    (∃ values, (spec.bindAll convention arguments activity).1 = .ok values ∧
      spec.IsBoundBySlots convention arguments values) ∨
    ∃ i failure, spec.FailsFirst convention arguments i failure ∧
      (spec.bindAll convention arguments activity).1 = .error failure := by
  have hsteady : ∀ i p, spec.template.placeholders[i]? = some p →
      Steady (spec.slot convention arguments (0 + i) p) :=
    fun i p hp => h.steady_slot (List.mem_of_getElem? hp) _
  rcases bindFrom_cases 0 hsteady activity with
    ⟨values, hvalues, hlength, hslots⟩ | ⟨i, p, failure, hp, hfails, hfirst, hfailed⟩
  · refine .inl ⟨values, hvalues, hlength, fun i p hp => ?_⟩
    rw [← Nat.zero_add i]
    simpa using hslots i p hp
  · refine .inr ⟨i, failure, ⟨⟨p, hp, ?_⟩, fun j hj q hq => ?_⟩, hfailed⟩
    · simpa using hfails
    · simpa using hfirst j hj q hq

/-! ## Other converters -/

/-- The update that has other converters and is like this one otherwise. -/
def withConverters (spec : Spec) (converters : List (Option Converter)) : Spec :=
  { spec with converters }

@[simp]
theorem withConverters_template (spec : Spec) (converters : List (Option Converter)) :
    (spec.withConverters converters).template = spec.template := rfl

/-- A slot is bound by the converter at its own place only. -/
theorem slot_withConverters {converters : List (Option Converter)} {i : Nat}
    (h : (converters[i]?).join = (spec.converters[i]?).join) (p : Placeholder) :
    (spec.withConverters converters).slot convention arguments i p =
      spec.slot convention arguments i p := by
  unfold slot
  simp only [bindSlot_place]
  rw [withConverters, h]
  rfl

theorem bindFrom_withConverters {converters : List (Option Converter)} (n : Nat)
    {slots : List Placeholder}
    (h : ∀ i < slots.length, (converters[n + i]?).join = (spec.converters[n + i]?).join) :
    bindFrom (spec.withConverters converters) (fun p => resolve convention p arguments) (1 + n)
        slots =
      bindFrom spec (fun p => resolve convention p arguments) (1 + n) slots := by
  induction slots generalizing n with
  | nil => rfl
  | cons p rest ih =>
    have hhead : (converters[n]?).join = (spec.converters[n]?).join := h 0 (Nat.succ_pos _)
    have hrest : ∀ i < rest.length,
        (converters[n + 1 + i]?).join = (spec.converters[n + 1 + i]?).join := by
      intro i hi
      rw [Nat.add_right_comm]
      exact h (i + 1) (Nat.succ_lt_succ hi)
    rw [bindFrom_cons, bindFrom_cons, ih (n + 1) hrest, slot_withConverters hhead]

/-- The converters beyond the last slot do not matter. -/
theorem bindAll_withConverters_take {n : Nat} (h : spec.template.placeholders.length ≤ n)
    (convention : AccessorConvention) (arguments : List Value) :
    (spec.withConverters (spec.converters.take n)).bindAll convention arguments =
      spec.bindAll convention arguments := by
  refine bindFrom_withConverters 0 fun i hi => ?_
  rw [Nat.zero_add, List.getElem?_take_of_lt (Nat.lt_of_lt_of_le hi h)]

/-- Declarations that differ in entries beyond the last slot only are bound alike. -/
theorem bindAll_eq_of_build {request : SpecRequest} {entries : List ConverterEntry}
    {declared : Activity} {other : Spec} (h : (build request declared).1 = .ok spec)
    (hentries : entries.take spec.template.placeholders.length =
      request.bindings.take spec.template.placeholders.length)
    (hother : (build { request with bindings := entries } declared).1 = .ok other) :
    other.bindAll convention arguments = spec.bindAll convention arguments := by
  generalize hn : spec.template.placeholders.length = n at hentries
  have hspec := build_take h n
  have htaken := build_take hother n
  dsimp only at htaken
  rw [hentries] at htaken
  have hsame : other.withConverters (other.converters.take n) =
      spec.withConverters (spec.converters.take n) :=
    Except.ok.inj (htaken.symm.trans hspec)
  have htemplate : other.template = spec.template := by
    simpa only [withConverters_template] using congrArg Spec.template hsame
  have hcount : other.template.placeholders.length ≤ n := by
    rw [htemplate]
    exact Nat.le_of_eq hn
  rw [← bindAll_withConverters_take hcount, hsame, bindAll_withConverters_take (Nat.le_of_eq hn)]

/-- Values that slots have with other converters differ at the places of those converters only. -/
theorem IsBoundBySlots.eq_set {converters : List (Option Converter)} {k : Nat}
    {found : List Value} {bound : Value} (hvalues : spec.IsBoundBySlots convention arguments values)
    (hfound : (spec.withConverters converters).IsBoundBySlots convention arguments found)
    (hothers : ∀ i, i ≠ k → (converters[i]?).join = (spec.converters[i]?).join)
    (hplace : found[k]? = some bound) : found = values.set k bound := by
  have : Nonempty Activity := ⟨{}⟩
  have hcount : found.length = values.length := hfound.length.trans hvalues.length.symm
  refine List.ext_getElem? fun i => ?_
  by_cases hi : k = i
  · subst hi
    have hk : k < values.length := hcount ▸ (List.getElem?_eq_some_iff.1 hplace).1
    rw [hplace, List.getElem?_set_self hk]
  · rw [List.getElem?_set_ne hi]
    rcases hq : spec.template.placeholders[i]? with _ | q
    · have hbehind : values.length ≤ i := by
        rw [hvalues.length]
        exact List.getElem?_eq_none_iff.1 hq
      rw [List.getElem?_eq_none hbehind, List.getElem?_eq_none (hcount ▸ hbehind)]
    · obtain ⟨before, hbefore, hgivesBefore⟩ := hvalues.slot i q hq
      obtain ⟨now, hnow, hgivesNow⟩ := hfound.slot i q hq
      rw [slot_withConverters (hothers i (Ne.symm hi))] at hgivesNow
      rw [hbefore, hnow, hgivesBefore.unique hgivesNow]

theorem IsSteadyOn.isBoundBySlots (h : spec.IsSteadyOn convention arguments)
    (hvalues : (spec.bindAll convention arguments activity).1 = .ok values) :
    spec.IsBoundBySlots convention arguments values := by
  rcases h.bindAll_cases activity with ⟨found, hfound, hbound⟩ | ⟨i, failure, -, hfailed⟩
  · cases hvalues.symm.trans hfound
    exact hbound
  · cases hvalues.symm.trans hfailed

/-- With another converter for one slot, that slot decides: it fails, or only its value differs. -/
theorem bindAll_withConverters_one {converters : List (Option Converter)} {k : Nat}
    {p : Placeholder} (hsteady : spec.IsSteadyOn convention arguments)
    (hvalues : (spec.bindAll convention arguments activity).1 = .ok values)
    (hp : spec.template.placeholders[k]? = some p)
    (hothers : ∀ i, i ≠ k → (converters[i]?).join = (spec.converters[i]?).join)
    (hreplaced : (spec.withConverters converters).IsSteadyOn convention arguments)
    (after : Activity) :
    ((spec.withConverters converters).bindAll convention arguments after).1 =
      ((spec.withConverters converters).slot convention arguments k p after).1.map
        (values.set k) := by
  have : Nonempty Activity := ⟨{}⟩
  have hbefore := hsteady.isBoundBySlots hvalues
  rcases hreplaced.bindAll_cases after with
    ⟨found, hfound, hnow⟩ | ⟨i, failure, ⟨⟨q, hq, hfails⟩, -⟩, hfailed⟩
  · obtain ⟨bound, hplace, hgives⟩ := hnow.slot k p hp
    rw [hfound, hgives after, hbefore.eq_set hnow hothers hplace]
    rfl
  · by_cases hi : i = k
    · subst hi
      cases hq.symm.trans hp
      rw [hfailed, hfails after]
      rfl
    · -- the other slots are bound as before
      obtain ⟨bound, -, hgives⟩ := hbefore.slot i q hq
      rw [slot_withConverters (hothers i hi)] at hfails
      exact absurd hfails hgives.not_alwaysFails

/-! ## Slots by their entries -/

/-- An entry, or its absence, with the converter that it named gives a value for another one. -/
inductive ConvertedBy : Option ConverterEntry → Option Converter → Value → Value → Prop
  | absent {v bound : Value} : AlwaysGives (Conversion.standard v) bound →
      ConvertedBy none none v bound
  | standard {entry : ConverterEntry} {v bound : Value} : entry.isStandard = true →
      AlwaysGives (Conversion.standard v) bound → ConvertedBy (some entry) none v bound
  | named {entry : ConverterEntry} {c : Converter} {v bound : Value} : entry.isStandard = false →
      MayGive entry.toConverter (some c) → AlwaysGives (c.apply v) bound →
        ConvertedBy (some entry) (some c) v bound

/-- There is one value for each slot, in order: what its placeholder denotes, converted as the entry
at its place says. -/
structure IsBoundInOrder (spec : Spec) (entries : List ConverterEntry)
    (convention : AccessorConvention) (arguments : List Value) (denoted : Placeholder → Value)
    (values : List Value) : Prop where
  length : values.length = spec.template.placeholders.length
  denotes : ∀ p ∈ spec.template.placeholders,
    AlwaysGives (resolve convention p arguments) (denoted p)
  converted : ∀ (i : Nat) (p : Placeholder), spec.template.placeholders[i]? = some p →
    ∃ bound, values[i]? = some bound ∧
      ConvertedBy entries[i]? (spec.converters[i]?).join (denoted p) bound

variable {entries : List ConverterEntry}

theorem convertedBy_of_converts (hentries : MayGive (convertersOf entries) spec.converters)
    {i : Nat} {v bound : Value} (h : spec.Converts i v bound) :
    ConvertedBy entries[i]? (spec.converters[i]?).join v bound := by
  have hplace := rel_of_convertersOf hentries i
  unfold Converts at h
  generalize entries[i]? = entry, spec.converters[i]? = converter at hplace h ⊢
  cases hplace with
  | none => exact .absent h
  | @some entry converter hnamed =>
    have hsome := ConverterEntry.isSome_of_toConverter hnamed
    cases converter with
    | none => exact .standard (by simpa using hsome) h
    | some c => exact .named (by simpa using hsome) hnamed h

theorem IsBoundBySlots.exists_isBoundInOrder
    (hentries : MayGive (convertersOf entries) spec.converters)
    (hsteady : spec.IsSteadyOn convention arguments)
    (h : spec.IsBoundBySlots convention arguments values) :
    ∃ denoted, spec.IsBoundInOrder entries convention arguments denoted values := by
  have : Nonempty Activity := ⟨{}⟩
  have hslots : ∀ i p, spec.template.placeholders[i]? = some p →
      ∃ v bound, AlwaysGives (resolve convention p arguments) v ∧ values[i]? = some bound ∧
        spec.Converts i v bound := by
    intro i p hp
    obtain ⟨bound, hbound, hgives⟩ := h.slot i p hp
    obtain ⟨v, hv, hconverts⟩ :=
      exists_converts_of_slot hsteady (List.mem_of_getElem? hp) hgives.mayGive
    exact ⟨v, bound, hv, hbound, hconverts⟩
  have hdenoted : ∀ p, ∃ v, p ∈ spec.template.placeholders →
      AlwaysGives (resolve convention p arguments) v := by
    intro p
    by_cases hp : p ∈ spec.template.placeholders
    · obtain ⟨i, hi⟩ := List.mem_iff_getElem?.1 hp
      obtain ⟨v, -, hv, -⟩ := hslots i p hi
      exact ⟨v, fun _ => hv⟩
    · exact ⟨.none, fun hmem => absurd hmem hp⟩
  -- slots with equal placeholders share what they denote
  choose denoted hdenotes using hdenoted
  refine ⟨denoted, h.length, hdenotes, fun i p hp => ?_⟩
  obtain ⟨v, bound, hv, hbound, hconverts⟩ := hslots i p hp
  have hsame : v = denoted p := hv.unique (hdenotes p (List.mem_of_getElem? hp))
  exact ⟨bound, hbound, hsame ▸ convertedBy_of_converts hentries hconverts⟩

/-- Slots are bound in order and apart from each other.  Each one is bound to what its placeholder
denotes, converted by the entry at its place, or the first slot that cannot be bound decides the
failure.  Another converter for one slot changes the value of that slot only, or the failure of
that slot is the outcome.  Entries beyond the last slot do not matter. -/
theorem bound_slot_by_slot (hentries : MayGive (convertersOf entries) spec.converters)
    (hsteady : spec.IsSteadyOn convention arguments) (activity : Activity) :
    ((∃ values denoted, (spec.bindAll convention arguments activity).1 = .ok values ∧
        spec.IsBoundInOrder entries convention arguments denoted values) ∨
      ∃ i failure, spec.FailsFirst convention arguments i failure ∧
        (spec.bindAll convention arguments activity).1 = .error failure) ∧
    (∀ values, (spec.bindAll convention arguments activity).1 = .ok values →
      ∀ k p, spec.template.placeholders[k]? = some p → ∀ converters : List (Option Converter),
        (∀ i, i ≠ k → (converters[i]?).join = (spec.converters[i]?).join) →
        (spec.withConverters converters).IsSteadyOn convention arguments →
        ∀ after, ((spec.withConverters converters).bindAll convention arguments after).1 =
          ((spec.withConverters converters).slot convention arguments k p after).1.map
            (values.set k)) ∧
    ∀ request declared, (build request declared).1 = .ok spec →
      MayGive (convertersOf request.bindings) spec.converters ∧
      let slots := spec.template.placeholders.length
      (∃ other, (build { request with bindings := request.bindings.take slots } declared).1 =
        .ok other) ∧
      ∀ others other, others.take slots = request.bindings.take slots →
        (build { request with bindings := others } declared).1 = .ok other →
        ∀ convention arguments,
          other.bindAll convention arguments = spec.bindAll convention arguments := by
  refine ⟨?_, fun values hvalues k p hp converters hothers hreplaced after => ?_,
    fun request declared hbuild => ⟨mayGive_convertersOf_of_build hbuild, ?_, ?_⟩⟩
  · rcases hsteady.bindAll_cases activity with ⟨values, hvalues, hbound⟩ | hfails
    · obtain ⟨denoted, horder⟩ := hbound.exists_isBoundInOrder hentries hsteady
      exact .inl ⟨values, denoted, hvalues, horder⟩
    · exact .inr hfails
  · exact bindAll_withConverters_one hsteady hvalues hp hothers hreplaced after
  · exact ⟨_, build_take hbuild _⟩
  · intro others other hsame hother convention arguments
    exact bindAll_eq_of_build hbuild hsame hother

/-- One argument fills two slots, each by its own entry; an entry is left over. -/
theorem bound_slot_by_slot_shared_argument :
    let twice : ConverterEntry := .function "twice" fun v => pure (.list [v, v])
    let twiceConverter : Converter :=
      .adapted (Text.quote "twice") fun v => pure (.list [v, v])
    let entries : List ConverterEntry := [.value .none, twice, .standard, twice]
    let spec : Spec :=
      { template := { source := "SET a = ?2, b = ?1, c = ?1", segments :=
          [.literal "SET a = ", .placeholder { index := 2, path := [] }, .literal ", b = ",
            .placeholder { index := 1, path := [] }, .literal ", c = ",
            .placeholder { index := 1, path := [] }] }
        converters := [none, some twiceConverter, none, some twiceConverter] }
    let arguments : List Value := [.int 7, .text "x"]
    (MayGive (convertersOf entries) spec.converters ∧ spec.IsSteadyOn {} arguments) ∧
      ∃ denoted, spec.IsBoundInOrder entries {} arguments denoted
        [.text "x", .list [.int 7, .int 7], .int 7] := by
  intro twice twiceConverter entries spec arguments
  have hentries : MayGive (convertersOf entries) spec.converters := ⟨fun _ => 0, fun _ => 0, rfl⟩
  have hsteady : spec.IsSteadyOn {} arguments := by
    have hpaths : ∀ p ∈ spec.template.placeholders, p.path = [] := by decide
    refine ⟨fun p hp v _ target name hway => ?_, fun p _ v _ c hc => ?_, fun p hp v hv => ?_⟩
    · rw [hpaths p hp] at hway
      cases hway
    · have hsame : c = twiceConverter := by simpa [spec] using hc
      subst hsame
      exact steady_pure _
    · have hplain : ∀ p ∈ spec.template.placeholders, ∃ v,
          resolve {} p arguments = pure v ∧ Conversion.standard v = pure v := by
        have hslots : spec.template.placeholders =
            [{ index := 2, path := [] }, { index := 1, path := [] },
              { index := 1, path := [] }] := rfl
        rw [hslots]
        simp only [List.forall_mem_cons]
        exact ⟨⟨_, rfl, rfl⟩, ⟨_, rfl, rfl⟩, ⟨_, rfl, rfl⟩, List.forall_mem_nil _⟩
      obtain ⟨w, hresolve, hstandard⟩ := hplain p hp
      rw [hresolve] at hv
      rw [hv.eq_of_pure, hstandard]
      exact steady_pure w
  refine ⟨⟨hentries, hsteady⟩, ?_⟩
  obtain ⟨houtcome, -, -⟩ := bound_slot_by_slot hentries hsteady {}
  rcases houtcome with ⟨values, denoted, hvalues, horder⟩ | ⟨i, failure, -, hfailed⟩
  · cases hvalues
    exact ⟨denoted, horder⟩
  · cases hfailed

end Spec
end BoundUpdate
