import BoundUpdate.Proofs.Invocation.UnitProtocol

namespace BoundUpdate

/-!
# The life of an invocation

A bound invocation is executed at most once.  The first call that executes it
leaves the bound state whatever its unit does: it ends executed when every
operation of the unit returned, and discarded when one raised.  No state behind
that is left again: every later call is refused before it asks its unit for
anything.

Calls are followed by the traces that they find and leave.  Nothing is said of
what happens between two calls, so others may work in the meantime.
-/

namespace Invocation

/-! ## What the unit is asked for -/

section Performed

variable {spec : Spec} {u : ExecutionUnit} {c : Invocation} {activity after : Activity}
  {outcome : Except Failure UnitResult}

/-- Binding values and executing is a session, whatever the unit makes of the statement. -/
theorem exists_session_of_bindParameters {s : Statement} {position : Nat} {values : List Value}
    (h : (bindParameters u s position values >>= u.executeSingle) activity = (outcome, after)) :
    ∃ operations, u.Session (some s) activity operations outcome after := by
  induction values generalizing s position activity with
  | nil => exact ⟨_, .executed h⟩
  | cons v rest ih =>
    rw [bindParameters, bind_assoc] at h
    rcases hbind : u.bind s (.int position) v activity with ⟨failure | t, between⟩
    · rw [Act.bind_run_error hbind] at h
      cases h
      exact ⟨_, .bindRaised hbind⟩
    · rw [Act.bind_run_ok hbind] at h
      obtain ⟨operations, hsession⟩ := ih h
      exact ⟨_, .bound hbind hsession⟩

/-- Preparing and then going on is a session if going on is one. -/
theorem exists_session_of_prepare {t : Template} {keys : KeyRequest} {columns : List Value}
    {next : Statement → Act UnitResult}
    (h : (u.prepare t keys columns >>= next) activity = (outcome, after))
    (hnext : ∀ {s between}, next s between = (outcome, after) →
      ∃ operations, u.Session (some s) between operations outcome after) :
    ∃ operations, u.Session none activity operations outcome after := by
  rcases hprepare : u.prepare t keys columns activity with ⟨failure | s, between⟩
  · rw [Act.bind_run_error hprepare] at h
    cases h
    exact ⟨_, .prepareRaised hprepare⟩
  · rw [Act.bind_run_ok hprepare] at h
    obtain ⟨operations, hsession⟩ := hnext h
    exact ⟨_, .prepared hprepare hsession⟩

/-- An invocation as binding leaves it: for a batch, or with one list of values. -/
def IsFresh (c : Invocation) : Prop :=
  c.state = .batchBound ∨ c.state = .singleBound ∧ ∃ values, c.parameterSets = [values]

theorem IsFresh.isBound (h : c.IsFresh) : c.state.isBound = true := by
  rcases h with hstate | ⟨hstate, -⟩ <;> rw [hstate] <;> rfl

theorem isFresh_of_bind {convention : AccessorConvention} {arguments : List Value}
    (h : bind spec convention arguments activity = (.ok c, after)) : c.IsFresh := by
  rcases bind_cases h with ⟨-, values, -, rfl⟩ | ⟨-, n, columns, between, sets, -, -, rfl⟩
  · exact .inr ⟨rfl, values, rfl⟩
  · exact .inl rfl

/-- What performing an invocation asks of a unit: nothing for an empty batch, and otherwise the
operations of a session, the last of which may have raised. -/
inductive Performed (u : ExecutionUnit) (c : Invocation) (activity : Activity) :
    List Operation → Except Failure UnitResult → Activity → Prop
  | nothing {after : Activity} :
      c.state = .batchBound → c.parameterSets = [] → after.events = activity.events →
      Performed u c activity [] (.ok {}) after
  | session {operations : List Operation} {reported : Except Failure UnitResult}
      {after : Activity} :
      u.Session none activity operations reported after →
      Performed u c activity operations reported after

theorem exists_performed (hc : c.IsFresh) (h : perform spec u c activity = (outcome, after)) :
    ∃ operations, Performed u c activity operations outcome after := by
  rcases hc with hstate | ⟨hstate, values, hsets⟩
  · by_cases hempty : c.parameterSets = []
    · obtain ⟨ended, hperform, hevents⟩ := exists_perform_empty spec u hstate hempty activity
      rw [hperform] at h
      cases h
      exact ⟨[], .nothing hstate hempty hevents⟩
    · obtain ⟨operations, hsession, -⟩ := follows_of_perform_batch hstate hempty h
      exact ⟨operations, .session hsession⟩
  · have hsingle : c.state ≠ .batchBound := by rw [hstate]; nofun
    rw [perform, if_neg hsingle, hsets] at h
    obtain ⟨operations, hsession⟩ :=
      exists_session_of_prepare h fun hrest => exists_session_of_bindParameters hrest
    exact ⟨operations, .session hsession⟩

theorem Performed.events {operations : List Operation}
    (h : Performed u.watched c activity operations outcome after) :
    after.events = activity.events ++ operations.map Operation.event := by
  cases h with
  | nothing _ _ hevents => rw [hevents, List.map_nil, List.append_nil]
  | session hsession => exact hsession.events

end Performed

/-! ## One call -/

/-- How a call ends that performs an invocation, by what the unit reported: what becomes of the
invocation and what the call answers. -/
inductive Ended (spec : Spec) (c : Invocation) :
    Except Failure UnitResult → Invocation → Except Failure Outcome → Prop
  | executed {r : UnitResult} :
      Ended spec c (.ok r) { c with state := .executed } (.ok (outcomeOf spec r))
  /-- Failures of the library and interruptions leave the call as they are. -/
  | kept {failure : Failure} :
      failure.kind.isLibrary = true ∨ failure.isOrdinary = false →
      Ended spec c (.error failure) { c with state := .discarded } (.error failure)
  /-- Any other failure is the cause of the one that leaves the call. -/
  | replaced {failure : Failure} :
      failure.kind.isLibrary = false → failure.isOrdinary = true →
      Ended spec c (.error failure) { c with state := .discarded }
        (.error (.execution
          { name := spec.name, source := spec.template.source, cause := failure.toCause }))

/-- The failure of executing an invocation in a state that is not bound. -/
def refusal (state : InvocationState) : Failure :=
  .raised .runtime ("Cannot execute an invocation in state " ++ state.word)

section Call

variable {spec : Spec} {u : ExecutionUnit} {c d : Invocation} {activity after : Activity}
  {reported : Except Failure UnitResult} {answer : Except Failure Outcome}

/-- What is bound ends in a state that is not. -/
theorem Ended.not_isBound (h : Ended spec c reported d answer) : d.state.isBound = false := by
  cases h <;> rfl

theorem escalate_of_kept (spec : Spec) {failure : Failure}
    (h : failure.kind.isLibrary = true ∨ failure.isOrdinary = false) (activity : Activity) :
    escalate spec failure activity = (.ok failure, activity) := by
  have hkept : (failure.kind.isLibrary || !failure.isOrdinary) = true := by simpa using h
  rw [escalate, if_pos hkept]
  rfl

theorem exists_escalate_of_replaced (spec : Spec) {failure : Failure}
    (hforeign : failure.kind.isLibrary = false) (hordinary : failure.isOrdinary = true)
    (activity : Activity) :
    ∃ after, escalate spec failure activity = (.ok (.execution
        { name := spec.name, source := spec.template.source, cause := failure.toCause }), after) ∧
      after.events = activity.events := by
  have hreplaced : ¬ (failure.kind.isLibrary || !failure.isOrdinary) = true := by
    simp [hforeign, hordinary]
  rw [escalate, if_neg hreplaced]
  exact ⟨_, rfl, rfl⟩

/-- A call on a bound invocation performs it and ends by what the unit reported. -/
theorem execute_of_isBound (hstate : c.state.isBound = true)
    (hperform : perform spec u c activity = (reported, after)) :
    ∃ d answer ended, execute spec u c activity = (.ok (d, answer), ended) ∧
      Ended spec c reported d answer ∧ ended.events = after.events := by
  rcases reported with failure | r
  · by_cases hkept : failure.kind.isLibrary = true ∨ failure.isOrdinary = false
    · have hescalate := escalate_of_kept spec hkept after
      exact ⟨_, _, _, execute_of_perform_failed hstate hperform hescalate, .kept hkept, rfl⟩
    · have hforeign : failure.kind.isLibrary = false := by
        rw [← Bool.not_eq_true]
        exact fun hlibrary => hkept (.inl hlibrary)
      have hordinary : failure.isOrdinary = true := by
        rw [← Bool.not_eq_false]
        exact fun hinterrupt => hkept (.inr hinterrupt)
      obtain ⟨ended, hescalate, hevents⟩ :=
        exists_escalate_of_replaced spec hforeign hordinary after
      exact ⟨_, _, _, execute_of_perform_failed hstate hperform hescalate,
        .replaced hforeign hordinary, hevents⟩
  · exact ⟨_, _, _, execute_of_performed hstate hperform, .executed, rfl⟩

/-- A call on an invocation that is not bound changes nothing. -/
theorem execute_of_not_isBound (hstate : c.state.isBound = false) (activity : Activity) :
    execute spec u c activity = (.ok (c, .error (refusal c.state)), activity) := by
  have hunbound : ¬ c.state.isBound = true := by rw [hstate]; exact Bool.false_ne_true
  rw [execute, if_neg hunbound]
  rfl

/-- Every call answers, with an outcome or with a failure. -/
theorem exists_execute (spec : Spec) (u : ExecutionUnit) (c : Invocation) (activity : Activity) :
    ∃ d answer after, execute spec u c activity = (.ok (d, answer), after) := by
  cases hstate : c.state.isBound with
  | true =>
    rcases hperform : perform spec u c activity with ⟨reported, performed⟩
    obtain ⟨d, answer, after, hexecute, -⟩ := execute_of_isBound hstate hperform
    exact ⟨d, answer, after, hexecute⟩
  | false => exact ⟨_, _, _, execute_of_not_isBound hstate activity⟩

end Call

/-! ## Successive calls -/

/-- A call that executes an invocation: the unit it is given, the traces that it finds and leaves,
and what it answers. -/
structure ExecuteCall where
  unit : ExecutionUnit
  before : Activity
  answer : Except Failure Outcome
  after : Activity

/-- Successive calls on an invocation, each with a watched unit, and what it is after them. -/
inductive Calls (spec : Spec) : Invocation → List ExecuteCall → Invocation → Prop
  | done {c : Invocation} : Calls spec c [] c
  | call {c d final : Invocation} {first : ExecuteCall} {later : List ExecuteCall} :
      execute spec first.unit.watched c first.before = (.ok (d, first.answer), first.after) →
      Calls spec d later final → Calls spec c (first :: later) final

section Calls

variable {spec : Spec} {c d final : Invocation} {calls : List ExecuteCall}

/-- Any units can be given to successive calls, on any traces. -/
theorem exists_calls (spec : Spec) (c : Invocation) (given : List (ExecutionUnit × Activity)) :
    ∃ calls final, Calls spec c calls final ∧
      calls.map (fun call => (call.unit, call.before)) = given := by
  induction given generalizing c with
  | nil => exact ⟨[], c, .done, rfl⟩
  | cons first later ih =>
    obtain ⟨unit, before⟩ := first
    obtain ⟨d, answer, after, hexecute⟩ := exists_execute spec unit.watched c before
    obtain ⟨calls, final, hcalls, hgiven⟩ := ih d
    exact ⟨{ unit, before, answer, after } :: calls, final, .call hexecute hcalls,
      congrArg ((unit, before) :: ·) hgiven⟩

/-- A call is refused: it answers so, and leaves the traces as they are. -/
def ExecuteCall.IsRefused (call : ExecuteCall) (state : InvocationState) : Prop :=
  call.answer = .error (refusal state) ∧ call.after = call.before

/-- Once an invocation is not bound it stays as it is, and every call is refused. -/
theorem Calls.of_not_isBound (h : Calls spec c calls final) (hstate : c.state.isBound = false) :
    final = c ∧ ∀ call ∈ calls, call.IsRefused c.state := by
  induction h with
  | done => exact ⟨rfl, fun _ hcall => nomatch hcall⟩
  | call hexecute _ ih =>
    rw [execute_of_not_isBound hstate] at hexecute
    obtain ⟨hgiven, hafter⟩ := Prod.mk.inj hexecute
    obtain ⟨rfl, hanswer⟩ := Prod.mk.inj (Except.ok.inj hgiven)
    obtain ⟨hfinal, hrefused⟩ := ih hstate
    refine ⟨hfinal, fun call hcall => ?_⟩
    rcases List.mem_cons.1 hcall with rfl | hlater
    · exact ⟨hanswer.symm, hafter.symm⟩
    · exact hrefused call hlater

/-- What the first call on a fresh invocation asks of its unit, and how it ends. -/
theorem exists_performed_of_execute {u : ExecutionUnit} {answer : Except Failure Outcome}
    {before after : Activity} (hc : c.IsFresh)
    (h : execute spec u.watched c before = (.ok (d, answer), after)) :
    ∃ operations reported ended, Performed u.watched c before operations reported ended ∧
      after.events = before.events ++ operations.map Operation.event ∧
      Ended spec c reported d answer := by
  rcases hperform : perform spec u.watched c before with ⟨reported, ended⟩
  obtain ⟨operations, hperformed⟩ := exists_performed hc hperform
  obtain ⟨d', answer', after', hexecute, hended, hevents⟩ := execute_of_isBound hc.isBound hperform
  rw [h] at hexecute
  cases hexecute
  exact ⟨operations, reported, ended, hperformed, hevents.trans hperformed.events, hended⟩

/-- Whatever units are given to successive calls on a bound invocation, each call answers.  Only the
first one asks its unit for anything, and what the unit reports decides for good whether the
invocation is executed or discarded; every later call is refused. -/
theorem executed_at_most_once {convention : AccessorConvention} {arguments : List Value}
    {activity bound : Activity}
    (hbind : bind spec convention arguments activity = (.ok c, bound)) :
    (∀ given : List (ExecutionUnit × Activity), ∃ calls final, Calls spec c calls final ∧
      calls.map (fun call => (call.unit, call.before)) = given) ∧
    ∀ first later final, Calls spec c (first :: later) final →
      (∃ operations reported ended,
        Performed first.unit.watched c first.before operations reported ended ∧
        first.after.events = first.before.events ++ operations.map Operation.event ∧
        Ended spec c reported final first.answer) ∧
      ∀ call ∈ later, call.IsRefused final.state := by
  refine ⟨exists_calls spec c, fun first later final hcalls => ?_⟩
  cases hcalls with
  | @call _ d _ _ _ hexecute hlater =>
    obtain ⟨operations, reported, ended, hperformed, hevents, hended⟩ :=
      exists_performed_of_execute (isFresh_of_bind hbind) hexecute
    obtain ⟨rfl, hrefused⟩ := hlater.of_not_isBound hended.not_isBound
    exact ⟨⟨operations, reported, ended, hperformed, hevents, hended⟩, hrefused⟩

/-- A unit that fails to execute discards the invocation, so a second call is refused although its
unit would not fail. -/
theorem executed_at_most_once_failing_unit :
    let spec : Spec := { template := { source := "SET a = ?1", segments :=
      [.literal "SET a = ", .placeholder { index := 1 }] } }
    ∃ c bound first second final, bind spec {} [.int 7] {} = (.ok c, bound) ∧
      first.unit = Recording.silent { failure := some (.raised .runtime "gone") } ∧
      second.unit = Recording.silent {} ∧ Calls spec c [first, second] final ∧
      final.state = .discarded ∧
      first.answer = .error (.execution {
        name := spec.name, source := "SET a = ?1"
        cause := { kind := .runtime, text := "gone" } }) ∧
      second.IsRefused .discarded := by
  intro spec
  obtain ⟨c, bound, hbind⟩ : ∃ c bound, bind spec {} [.int 7] {} = (.ok c, bound) := ⟨_, _, rfl⟩
  obtain ⟨hanswer, honce⟩ := executed_at_most_once hbind
  let failing := Recording.silent { failure := some (.raised .runtime "gone") }
  obtain ⟨calls, final, hcalls, hgiven⟩ := hanswer [(failing, {}), (Recording.silent {}, {})]
  obtain ⟨first, rest, rfl, hfirst, hrest⟩ := List.map_eq_cons_iff.1 hgiven
  obtain ⟨second, none, rfl, hsecond, hnone⟩ := List.map_eq_cons_iff.1 hrest
  obtain rfl := List.map_eq_nil_iff.1 hnone
  obtain ⟨hunit, hbefore⟩ := Prod.mk.inj hfirst
  obtain ⟨hunit', -⟩ := Prod.mk.inj hsecond
  have hrefused : second.IsRefused final.state :=
    (honce first [second] final hcalls).2 second (List.mem_singleton.2 rfl)
  have hended : final.state = .discarded ∧ first.answer = .error (.execution {
      name := spec.name, source := "SET a = ?1"
      cause := { kind := .runtime, text := "gone" } }) := by
    cases hcalls with
    | call hexecute hlater =>
      rw [hunit, hbefore] at hexecute
      cases hbind
      obtain ⟨hgiven, -⟩ := Prod.mk.inj hexecute
      obtain ⟨rfl, hanswer⟩ := Prod.mk.inj (Except.ok.inj hgiven)
      obtain ⟨rfl, -⟩ := hlater.of_not_isBound rfl
      exact ⟨rfl, hanswer.symm⟩
  rw [hended.1] at hrefused
  exact ⟨c, bound, first, second, final, hbind, hunit, hunit', hcalls, hended.1, hended.2, hrefused⟩

end Calls

end Invocation
end BoundUpdate
