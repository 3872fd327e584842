import BoundUpdate.Proofs.Backend.Session
import BoundUpdate.Proofs.Backend.Slots
import BoundUpdate.Proofs.Invocation.Binding

namespace BoundUpdate

/-!
# What an invocation asks of its unit

All values are bound before the unit is asked for anything.  Then the unit has
to prepare one statement, to bind every value at its position and to execute
the statement once; for a batch, to prepare and to execute with all lists of
values at once; for an empty batch, nothing.  Whatever a unit answers, what it
is asked for is a start of this protocol, and the whole of it unless an
operation raises.
-/

/-- Bind values at successive positions, the first of which is given. -/
def bindsFrom (position : Nat) : List Value → List Operation
  | [] => []
  | v :: rest => .bind (.int position) v :: bindsFrom (position + 1) rest

namespace Spec

/-- The operations that execute an update with one list of values. -/
def singleProtocol (spec : Spec) (values : List Value) : List Operation :=
  .prepare spec.template spec.keys spec.keyColumns ::
    (bindsFrom 1 values ++ [.executeSingle values])

/-- The operations that execute an update with several lists of values. -/
def batchProtocol (spec : Spec) (sets : List (List Value)) : List Operation :=
  if sets = [] then []
  else [.prepare spec.template spec.keys spec.keyColumns, .executeBatch sets]

end Spec

namespace ExecutionUnit

/-- What is done with a unit is a start of some operations, and all of them if none raises. -/
def Follows (u : ExecutionUnit) (s : Option Statement) (activity : Activity)
    (operations : List Operation) (outcome : Except Failure UnitResult) (after : Activity) : Prop :=
  ∃ performed, u.Session s activity performed outcome after ∧ performed <+: operations ∧
    ∀ r, outcome = .ok r → performed = operations

section Follows

variable {u : ExecutionUnit} {s : Statement} {activity after : Activity}
  {operations : List Operation} {outcome : Except Failure UnitResult}

/-- What follows a first operation that gives a statement, which may raise instead. -/
theorem follows_of_prepare {t : Template} {keys : KeyRequest} {columns : List Value}
    {next : Statement → Act UnitResult}
    (h : (u.prepare t keys columns >>= next) activity = (outcome, after))
    (hnext : ∀ {s between}, u.prepare t keys columns activity = (.ok s, between) →
      next s between = (outcome, after) → u.Follows (some s) between operations outcome after) :
    u.Follows none activity (.prepare t keys columns :: operations) outcome after := by
  rcases hprepare : u.prepare t keys columns activity with ⟨failure | s, between⟩
  · rw [Act.bind_run_error hprepare] at h
    cases h
    exact ⟨_, .prepareRaised hprepare, List.cons_prefix_cons.2 ⟨rfl, List.nil_prefix⟩,
      fun _ hr => nomatch hr⟩
  · rw [Act.bind_run_ok hprepare] at h
    obtain ⟨performed, hsession, hprefix, hall⟩ := hnext hprepare h
    refine ⟨_, .prepared hprepare hsession, List.cons_prefix_cons.2 ⟨rfl, hprefix⟩, ?_⟩
    intro r hr
    rw [hall r hr]

theorem follows_of_bind {position v : Value} {next : Statement → Act UnitResult}
    (h : (u.bind s position v >>= next) activity = (outcome, after))
    (hnext : ∀ {t between}, u.bind s position v activity = (.ok t, between) →
      next t between = (outcome, after) → u.Follows (some t) between operations outcome after) :
    u.Follows (some s) activity (.bind position v :: operations) outcome after := by
  rcases hbind : u.bind s position v activity with ⟨failure | t, between⟩
  · rw [Act.bind_run_error hbind] at h
    cases h
    exact ⟨_, .bindRaised hbind, List.cons_prefix_cons.2 ⟨rfl, List.nil_prefix⟩,
      fun _ hr => nomatch hr⟩
  · rw [Act.bind_run_ok hbind] at h
    obtain ⟨performed, hsession, hprefix, hall⟩ := hnext hbind h
    refine ⟨_, .bound hbind hsession, List.cons_prefix_cons.2 ⟨rfl, hprefix⟩, ?_⟩
    intro r hr
    rw [hall r hr]

theorem follows_of_executeSingle (h : u.executeSingle s activity = (outcome, after)) :
    u.Follows (some s) activity [.executeSingle s.parameters] outcome after :=
  ⟨_, .executed h, List.prefix_rfl, fun _ _ => rfl⟩

theorem follows_of_executeBatch {sets : List (List Value)}
    (h : u.executeBatch s (.list (sets.map .list)) activity = (outcome, after)) :
    u.Follows (some s) activity [.executeBatch sets] outcome after :=
  ⟨_, .batchExecuted h, List.prefix_rfl, fun _ _ => rfl⟩

end Follows

end ExecutionUnit

namespace Invocation

/-! ## Performing a bound invocation -/

section Perform

variable {spec : Spec} {u : ExecutionUnit} {activity after : Activity}
  {outcome : Except Failure UnitResult}

/-- Values bound at the free slots of a statement from the left leave no slot free, so the
statement is executed with all values. -/
theorem follows_of_bindParameters (hu : u.IsPlain) {s : Statement} {values rest : List Value}
    (hs : s.Holds values rest.length)
    (h : (bindParameters u s (values.length + 1) rest >>= u.executeSingle) activity =
      (outcome, after)) :
    u.Follows (some s) activity
      (bindsFrom (values.length + 1) rest ++ [.executeSingle (values ++ rest)]) outcome after := by
  -- every bound value moves from the rest to the values that the statement holds
  induction rest generalizing s values activity with
  | nil =>
    have hexecute : u.executeSingle s activity = (outcome, after) := h
    have hfollows := ExecutionUnit.follows_of_executeSingle hexecute
    rwa [hs.parameters_eq, ← List.append_nil values] at hfollows
  | cons v rest ih =>
    rw [bindParameters, bind_assoc] at h
    refine ExecutionUnit.follows_of_bind h fun {t between} hbind hrest => ?_
    have hbound : (u.bind s (.int ((values.length + 1 : Nat) : Int)) v activity).1 = .ok t := by
      rw [hbind]
    have ht := hs.bindAt (hu.bind hbound)
    have hlength : (values ++ [v]).length = values.length + 1 := by simp
    rw [← hlength] at hrest
    have hfollows := ih ht hrest
    rwa [hlength, List.append_assoc] at hfollows

theorem follows_of_perform_single (hu : u.IsPlain) {c : Invocation} {values : List Value}
    (hstate : c.state ≠ .batchBound) (hsets : c.parameterSets = [values])
    (hlength : values.length = spec.template.placeholders.length)
    (h : perform spec u c activity = (outcome, after)) :
    u.Follows none activity (spec.singleProtocol values) outcome after := by
  rw [perform, if_neg hstate, hsets] at h
  refine ExecutionUnit.follows_of_prepare h fun {s between} hprepare hrest => ?_
  have hprepared : (u.prepare spec.template spec.keys spec.keyColumns activity).1 = .ok s := by
    rw [hprepare]
  obtain ⟨htemplate, hparameters⟩ := hu.prepare hprepared
  have hslots : s.slots = values.length := by rw [Statement.slots, htemplate, hlength]
  have hs : s.Holds [] values.length := hslots ▸ Statement.holds_nil hparameters
  exact follows_of_bindParameters hu hs hrest

theorem follows_of_perform_batch {c : Invocation} (hstate : c.state = .batchBound)
    (hsets : c.parameterSets ≠ []) (h : perform spec u c activity = (outcome, after)) :
    u.Follows none activity (spec.batchProtocol c.parameterSets) outcome after := by
  have hnonempty : ¬ c.parameterSets.isEmpty = true := by rwa [List.isEmpty_iff]
  rw [perform, if_pos hstate, if_neg hnonempty] at h
  rw [Spec.batchProtocol, if_neg hsets]
  exact ExecutionUnit.follows_of_prepare h fun _ hrest =>
    ExecutionUnit.follows_of_executeBatch hrest

/-- An empty batch asks its unit for nothing. -/
theorem exists_perform_empty (spec : Spec) (u : ExecutionUnit) {c : Invocation}
    (hstate : c.state = .batchBound) (hsets : c.parameterSets = []) (activity : Activity) :
    ∃ after, perform spec u c activity = (.ok {}, after) ∧ after.events = activity.events := by
  have hempty : c.parameterSets.isEmpty = true := by rw [hsets]; rfl
  rw [perform, if_pos hstate, if_pos hempty]
  exact ⟨_, rfl, rfl⟩

end Perform

/-! ## Executing -/

section Execute

variable {spec : Spec} {u : ExecutionUnit} {c : Invocation} {activity after : Activity}

theorem execute_of_performed {r : UnitResult} (hstate : c.state.isBound = true)
    (hperform : perform spec u c activity = (.ok r, after)) :
    execute spec u c activity =
      (.ok ({ c with state := .executed }, .ok (outcomeOf spec r)), after) := by
  have hattempt : Act.attempt (perform spec u c) activity = (.ok (.ok r), after) := by
    rw [Act.attempt_run, hperform]
  rw [execute, if_pos hstate]
  exact Act.bind_run_ok hattempt

/-- What the failure of a unit is made into leaves the invocation. -/
theorem execute_of_perform_failed {failure escaping : Failure} {ended : Activity}
    (hstate : c.state.isBound = true)
    (hperform : perform spec u c activity = (.error failure, after))
    (hescalate : escalate spec failure after = (.ok escaping, ended)) :
    execute spec u c activity =
      (.ok ({ c with state := .discarded }, .error escaping), ended) := by
  have hattempt : Act.attempt (perform spec u c) activity = (.ok (.error failure), after) := by
    rw [Act.attempt_run, hperform]
  rw [execute, if_pos hstate, Act.bind_run_ok hattempt]
  exact Act.bind_run_ok hescalate

theorem keepsEvents_escalate (spec : Spec) (failure : Failure) :
    (escalate spec failure).KeepsEvents := by
  unfold escalate
  split
  · exact Act.keepsEvents_pure _
  · exact (Act.keepsEvents_note _ _ _).map _

theorem exists_escalate (spec : Spec) (failure : Failure) (activity : Activity) :
    ∃ escaping between, escalate spec failure activity = (.ok escaping, between) ∧
      between.events = activity.events := by
  rcases hrun : escalate spec failure activity with ⟨impossible | escaping, between⟩
  · unfold escalate at hrun
    split at hrun <;> cases hrun
  · exact ⟨escaping, between, rfl, (keepsEvents_escalate spec failure).events_eq hrun⟩

end Execute

/-! ## Running -/

section Run

variable {spec : Spec} {convention : AccessorConvention} {u : ExecutionUnit}
  {arguments : List Value} {activity bound after : Activity}

theorem run_of_bind_failed {failure : Failure}
    (hbind : bind spec convention arguments activity = (.error failure, bound)) :
    run spec convention u arguments activity = (.error failure, bound) :=
  Act.bind_run_error hbind

theorem run_of_performed {c : Invocation} {r : UnitResult}
    (hbind : bind spec convention arguments activity = (.ok c, bound))
    (hstate : c.state.isBound = true) (hperform : perform spec u c bound = (.ok r, after)) :
    run spec convention u arguments activity = (.ok (outcomeOf spec r), after) := by
  rw [run, Act.bind_run_ok hbind, Act.bind_run_ok (execute_of_performed hstate hperform)]
  rfl

/-- A failure of the unit leaves the run, maybe as a failure of execution, and nothing more is
asked of the unit. -/
theorem run_of_perform_failed {c : Invocation} {failure : Failure}
    (hbind : bind spec convention arguments activity = (.ok c, bound))
    (hstate : c.state.isBound = true)
    (hperform : perform spec u c bound = (.error failure, after)) :
    ∃ escaping ended, run spec convention u arguments activity = (.error escaping, ended) ∧
      ended.events = after.events := by
  obtain ⟨escaping, ended, hescalate, hevents⟩ := exists_escalate spec failure after
  have hexecute := execute_of_perform_failed hstate hperform hescalate
  refine ⟨escaping, ended, ?_, hevents⟩
  rw [run, Act.bind_run_ok hbind, Act.bind_run_ok hexecute]
  rfl

end Run

/-- What an update asks of its unit for some arguments, once all values are bound. -/
inductive Planned (spec : Spec) (convention : AccessorConvention) (arguments : List Value)
    (activity : Activity) : Activity → List Operation → Prop
  /-- The values of all placeholders are bound to one statement. -/
  | single {values : List Value} {bound : Activity} :
      spec.isBatch = false →
      spec.bindAll convention arguments activity = (.ok values, bound) →
      values.length = spec.template.placeholders.length →
      Planned spec convention arguments activity bound (spec.singleProtocol values)
  /-- A statement is executed with the values of all placeholders for every row. -/
  | batch {n : Nat} {columns : List (List (Probe Value))} {sets : List (List Value)}
      {read bound : Activity} :
      spec.isBatch = true →
      Act.probe (Batch.columns arguments) activity = (.ok (n, columns), read) →
      bindRows spec convention (Batch.rows n columns) read = (.ok sets, bound) →
      sets.length = n →
      (∀ values ∈ sets, values.length = spec.template.placeholders.length) →
      Planned spec convention arguments activity bound (spec.batchProtocol sets)

/-- What a run asks of a watched unit is a start of some operations: none if there are none, and
else all of them, or those up to the first one that raises. -/
def AsksFor (spec : Spec) (convention : AccessorConvention) (u : ExecutionUnit)
    (arguments : List Value) (activity bound : Activity) (operations : List Operation) : Prop :=
  ∃ performed outcome after, performed <+: operations ∧
    run spec convention u.watched arguments activity = (outcome, after) ∧
    after.events = activity.events ++ performed.map Operation.event ∧
    (operations = [] ∧ outcome = .ok (outcomeOf spec {}) ∨
      (∃ r ended, u.watched.Session none bound performed (.ok r) ended ∧
        performed = operations ∧ outcome = .ok (outcomeOf spec r)) ∨
      (∃ failure ended escaping, u.watched.Session none bound performed (.error failure) ended ∧
        outcome = .error escaping))

section AsksFor

variable {spec : Spec} {convention : AccessorConvention} {u : ExecutionUnit}
  {arguments : List Value} {activity bound : Activity} {c : Invocation}

/-- Running a bound invocation asks its unit for what performing it does. -/
theorem asksFor_of_follows {operations : List Operation}
    (hbind : bind spec convention arguments activity = (.ok c, bound))
    (hstate : c.state.isBound = true)
    (hfollows : ∀ {outcome ended}, perform spec u.watched c bound = (outcome, ended) →
      u.watched.Follows none bound operations outcome ended) :
    AsksFor spec convention u arguments activity bound operations := by
  have hevents := (keepsEvents_bind spec convention arguments).events_eq hbind
  rcases hperform : perform spec u.watched c bound with ⟨failure | r, ended⟩
  · obtain ⟨performed, hsession, hprefix, -⟩ := hfollows hperform
    obtain ⟨escaping, after, hrun, hafter⟩ := run_of_perform_failed hbind hstate hperform
    refine ⟨performed, _, after, hprefix, hrun, ?_, ?_⟩
    · rw [hafter, hsession.events, hevents]
    · exact .inr (.inr ⟨failure, ended, escaping, hsession, rfl⟩)
  · obtain ⟨performed, hsession, hprefix, hall⟩ := hfollows hperform
    have hrun := run_of_performed hbind hstate hperform
    refine ⟨performed, _, ended, hprefix, hrun, ?_, ?_⟩
    · rw [hsession.events, hevents]
    · exact .inr (.inl ⟨r, ended, hsession, hall r rfl, rfl⟩)

theorem asksFor_single (hu : u.IsPlain) {values : List Value}
    (hbind : bind spec convention arguments activity = (.ok c, bound))
    (hc : c = { arguments, parameterSets := [values], state := .singleBound })
    (hlength : values.length = spec.template.placeholders.length) :
    AsksFor spec convention u arguments activity bound (spec.singleProtocol values) := by
  have hisBound : c.state.isBound = true := by rw [hc]; rfl
  have hstate : c.state ≠ .batchBound := by rw [hc]; nofun
  have hsets : c.parameterSets = [values] := by rw [hc]
  refine asksFor_of_follows hbind hisBound fun hperform => ?_
  exact follows_of_perform_single hu.watched hstate hsets hlength hperform

theorem asksFor_batch {n : Nat} {sets : List (List Value)}
    (hbind : bind spec convention arguments activity = (.ok c, bound))
    (hc : c = { arguments, parameterSets := sets, batchLength := some n, state := .batchBound }) :
    AsksFor spec convention u arguments activity bound (spec.batchProtocol sets) := by
  have hisBound : c.state.isBound = true := by rw [hc]; rfl
  have hstate : c.state = .batchBound := by rw [hc]
  have hsets : c.parameterSets = sets := by rw [hc]
  by_cases hempty : sets = []
  · -- no session takes place at all, so the run is followed by itself
    have hnone : c.parameterSets = [] := hsets.trans hempty
    obtain ⟨after, hperform, hafter⟩ := exists_perform_empty spec u.watched hstate hnone bound
    have hevents := (keepsEvents_bind spec convention arguments).events_eq hbind
    refine ⟨[], _, after, List.nil_prefix, run_of_performed hbind hisBound hperform, ?_, ?_⟩
    · rw [hafter, hevents, List.map_nil, List.append_nil]
    · exact .inl ⟨if_pos hempty, rfl⟩
  · have hnonempty : c.parameterSets ≠ [] := hsets ▸ hempty
    rw [← hsets]
    refine asksFor_of_follows hbind hisBound fun hperform => ?_
    exact follows_of_perform_batch hstate hnonempty hperform

end AsksFor

/-- Nothing is asked of the unit when binding fails.  When it does not fail, what is planned is
asked for, up to the first operation that raises. -/
theorem run_asks_planned (spec : Spec) (convention : AccessorConvention) {u : ExecutionUnit}
    (hu : u.IsPlain) (arguments : List Value) (activity : Activity) :
    (∀ failure bound, bind spec convention arguments activity = (.error failure, bound) →
      run spec convention u.watched arguments activity = (.error failure, bound) ∧
        bound.events = activity.events) ∧
    (∀ c bound, bind spec convention arguments activity = (.ok c, bound) →
      ∃ operations, Planned spec convention arguments activity bound operations ∧
        AsksFor spec convention u arguments activity bound operations) := by
  refine ⟨?_, ?_⟩
  · intro failure bound hbind
    have hevents := (keepsEvents_bind spec convention arguments).events_eq hbind
    exact ⟨run_of_bind_failed hbind, hevents⟩
  · intro c bound hbind
    rcases bind_cases hbind with ⟨hsingle, values, hvalues, hc⟩ |
      ⟨hbatch, n, columns, read, sets, hcolumns, hsets, hc⟩
    · have hlength := Spec.length_of_bindAll hvalues
      exact ⟨_, .single hsingle hvalues hlength, asksFor_single hu hbind hc hlength⟩
    · obtain ⟨hcount, hlengths⟩ := lengths_of_bindRows hsets
      rw [Batch.rows_length] at hcount
      exact ⟨_, .batch hbatch hcolumns hsets hcount hlengths, asksFor_batch hbind hc⟩

/-- Two values for two slots, on a unit that fails to execute: it is asked for everything. -/
theorem run_asks_planned_two_slots :
    let spec : Spec := { template := { source := "SET a = ?2, b = ?1", segments :=
      [.literal "SET a = ", .placeholder { index := 2 }, .literal ", b = ",
        .placeholder { index := 1 }] } }
    let u := Recording.silent { failure := some (.raised .runtime "gone") }
    u.IsPlain ∧ (run spec {} u.watched [.int 7, .text "x"] {}).2.events =
      (spec.singleProtocol [.text "x", .int 7]).map Operation.event := by
  intro spec u
  have hplain : u.IsPlain := ExecutionUnit.isPlain_silent _
  have hbind : ∃ c bound, bind spec {} [.int 7, .text "x"] {} = (.ok c, bound) := ⟨_, _, rfl⟩
  have hcount : (run spec {} u.watched [.int 7, .text "x"] {}).2.events.length = 4 := by
    decide +kernel
  obtain ⟨c, bound, hbind⟩ := hbind
  obtain ⟨operations, hplanned, performed, outcome, after, hprefix, hrun, hevents, -⟩ :=
    (run_asks_planned spec {} hplain [.int 7, .text "x"] {}).2 c bound hbind
  have hoperations : operations = spec.singleProtocol [.text "x", .int 7] := by
    cases hplanned with
    | single _ hvalues _ =>
      cases hvalues
      rfl
    | batch hbatch => cases hbatch
  rw [hoperations] at hprefix
  rw [hrun] at hcount ⊢
  have hlength : performed.length = 4 := by
    rw [hevents, List.length_append, List.length_map] at hcount
    exact (Nat.zero_add _).symm.trans hcount
  have hperformed : performed = spec.singleProtocol [.text "x", .int 7] :=
    hprefix.eq_of_length hlength
  refine ⟨hplain, ?_⟩
  rw [hevents, hperformed]
  rfl

end Invocation
end BoundUpdate
