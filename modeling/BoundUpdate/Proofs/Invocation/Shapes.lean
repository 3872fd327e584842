import BoundUpdate.Proofs.Backend.Exchange
import BoundUpdate.Proofs.Failure.Sequence
import BoundUpdate.Proofs.Invocation.Answers
import BoundUpdate.Proofs.Invocation.RowWise
import Mathlib.Algebra.Order.Group.Int
import Mathlib.Tactic.IntervalCases

namespace BoundUpdate

/-!
# Shapes of one answer

The shape that an update is declared with is only looked at when a report is
answered.  Values are bound, units are asked and failures are reported without
it, so two updates that differ in nothing but their shapes fail alike or answer
one report.  Their answers agree: the one number of affected rows is the sum of
the numbers for the single rows, and the one key is the first of the keys.
-/

namespace Spec

/-- The update that answers in a shape and is like this one otherwise. -/
def returning (spec : Spec) (shape : ReturnShape) : Spec := { spec with returns := shape }

section Declared

variable {request : SpecRequest} {declared : Activity} {spec : Spec}

theorem frame_returning {after : Activity} (h : frame request declared = (.ok spec, after))
    {shape : ReturnShape}
    (hshape : modeFault? spec.name spec.isBatch spec.keys shape spec.keyColumns = none) :
    frame { request with returns := .text shape.word } declared =
      (.ok (spec.returning shape), after) := by
  obtain ⟨label, _, hlabel, h⟩ := Act.exists_of_bind_run_ok h
  obtain ⟨blank, _, hblank, h⟩ := Act.exists_of_bind_run_ok h
  cases blank with
  | true => cases h
  | false =>
    obtain ⟨held, _, hheld, h⟩ := Act.exists_of_bind_run_ok h
    obtain ⟨keys, _, hkeys, h⟩ := Act.exists_of_bind_run_ok h
    obtain ⟨returns, _, hreturns, h⟩ := Act.exists_of_bind_run_ok h
    obtain ⟨columns, _, hcolumns, h⟩ := Act.exists_of_bind_run_ok h
    obtain ⟨batch, _, hbatch, h⟩ := Act.exists_of_bind_run_ok h
    cases hfault : modeFault? label.plain batch keys returns columns with
    | some fault =>
      rw [hfault] at h
      cases h
    | none =>
      rw [hfault] at h
      cases h
      have htruth : request.batch.truth = .ok batch := congrArg Prod.fst hbatch
      rw [isBatch, Value.isTruthy_of_truth htruth] at hshape
      have hfits : modeFault? label.plain batch keys shape columns = none := hshape
      have hword : ReturnShape.ofValue (.text shape.word) = .ok shape :=
        ReturnShape.ofValue_word shape
      -- the shape is chosen after the template was read and before the columns are
      obtain ⟨-, rfl⟩ := Prod.mk.inj hreturns
      refine (Act.bind_run_ok hlabel).trans ((Act.bind_run_ok hblank).trans ?_)
      refine (Act.bind_run_ok hheld).trans ((Act.bind_run_ok hkeys).trans ?_)
      rw [hword]
      refine (Act.bind_run_ok (Act.ofExcept_run _ _)).trans ?_
      refine (Act.bind_run_ok hcolumns).trans ((Act.bind_run_ok hbatch).trans ?_)
      rw [hfits]
      rfl

/-- The modes of an update admit every other shape that is about keys if its own one is, except one
number for each row. -/
theorem IsConsistent.modeFault?_eq_none (h : spec.IsConsistent) {shape : ReturnShape}
    (hkeys : shape.isKeys = spec.returns.isKeys) (hshape : shape ≠ .counts) :
    modeFault? spec.name spec.isBatch spec.keys shape spec.keyColumns = none := by
  have hwants : spec.keys.isWanted = shape.isKeys := h.wantsKeys_eq.trans hkeys.symm
  exact modeFault?_eq_none_iff.2
    ⟨hwants, h.single_of_keys, fun hcounts => absurd hcounts hshape, h.columns_named⟩

/-- An update can be declared with any other shape that fits its modes. -/
theorem build_returning (h : (build request declared).1 = .ok spec) {shape : ReturnShape}
    (hshape : modeFault? spec.name spec.isBatch spec.keys shape spec.keyColumns = none) :
    (build { request with returns := .text shape.word } declared).1 =
      .ok (spec.returning shape) := by
  obtain ⟨framed, between, converters, hframe, hconverters, hreached, rfl⟩ := build_eq_ok_iff.1 h
  exact build_eq_ok_iff.2
    ⟨framed.returning shape, between, converters, frame_returning hframe hshape, hconverters,
      hreached, rfl⟩

end Declared

variable (spec : Spec) (shape : ReturnShape)

theorem bindFrom_returning (denoted : Placeholder → Act Value) (position : Nat)
    (slots : List Placeholder) :
    (spec.returning shape).bindFrom denoted position slots =
      spec.bindFrom denoted position slots := by
  induction slots generalizing position with
  | nil => rfl
  | cons p rest ih =>
    unfold bindFrom
    simp only [ih]
    rfl

theorem bindAll_returning (convention : AccessorConvention) (arguments : List Value) :
    (spec.returning shape).bindAll convention arguments = spec.bindAll convention arguments :=
  spec.bindFrom_returning shape _ 1 _

end Spec

namespace Invocation

section Returning

variable (spec : Spec) (shape : ReturnShape) (convention : AccessorConvention)

theorem bindRows_returning (rows : List (List (Probe Value))) :
    bindRows (spec.returning shape) convention rows = bindRows spec convention rows := by
  induction rows with
  | nil => rfl
  | cons items rest ih =>
    rw [bindRows, bindRows, bindRow, bindRow, ih]
    simp only [spec.bindAll_returning]

theorem bind_returning (arguments : List Value) :
    bind (spec.returning shape) convention arguments = bind spec convention arguments := by
  unfold bind
  simp only [spec.bindAll_returning, bindRows_returning]
  rfl

section Calls

variable {spec convention} {u : ExecutionUnit} {arguments : List Value}
  {activity bound ended after : Activity} {c : Invocation} {r : UnitResult}
  {failure escaping : Failure}

theorem call_returning_of_performed
    (hbind : bind spec convention arguments activity = (.ok c, bound))
    (hperform : perform spec u c bound = (.ok r, ended)) :
    call (spec.returning shape) convention u arguments activity =
      (outcomeOf (spec.returning shape) r).extract shape spec.keys ended := by
  rw [← bind_returning spec shape] at hbind
  exact call_eq_of_performed hbind hperform

theorem call_eq_of_bind_failed
    (hbind : bind spec convention arguments activity = (.error failure, bound)) :
    call spec convention u arguments activity = (.error failure, bound) := by
  rw [call, Act.bind_run_error (run_of_bind_failed hbind)]

theorem call_eq_of_escalated
    (hbind : bind spec convention arguments activity = (.ok c, bound))
    (hperform : perform spec u c bound = (.error failure, ended))
    (hescalate : escalate spec failure ended = (.ok escaping, after)) :
    call spec convention u arguments activity = (.error escaping, after) := by
  have hexecute :=
    execute_of_perform_failed (isFresh_of_bind hbind).isBound hperform hescalate
  have hrun : run spec convention u arguments activity = (.error escaping, after) := by
    rw [run, Act.bind_run_ok hbind, Act.bind_run_ok hexecute]
    rfl
  rw [call, Act.bind_run_error hrun]

end Calls

/-- Two updates that differ in their shapes only: calls of both fail alike, unless the unit reports
something, which both answer. -/
inductive CallsAlike (u : ExecutionUnit) (arguments : List Value) (activity : Activity) : Prop
  | failed {failure : Failure} {after : Activity} :
      call spec convention u arguments activity = (.error failure, after) →
      call (spec.returning shape) convention u arguments activity = (.error failure, after) →
      CallsAlike u arguments activity
  | reported {c : Invocation} {bound ended : Activity} {r : UnitResult} :
      bind spec convention arguments activity = (.ok c, bound) →
      perform spec u c bound = (.ok r, ended) →
      call spec convention u arguments activity =
        (outcomeOf spec r).extract spec.returns spec.keys ended →
      call (spec.returning shape) convention u arguments activity =
        (outcomeOf (spec.returning shape) r).extract shape spec.keys ended →
      CallsAlike u arguments activity

theorem callsAlike (u : ExecutionUnit) (arguments : List Value) (activity : Activity) :
    CallsAlike spec shape convention u arguments activity := by
  have hbind' := congrFun (bind_returning spec shape convention arguments) activity
  rcases hbind : bind spec convention arguments activity with ⟨failure | c, bound⟩
  · rw [hbind] at hbind'
    exact .failed (call_eq_of_bind_failed hbind) (call_eq_of_bind_failed hbind')
  · rw [hbind] at hbind'
    rcases hperform : perform spec u c bound with ⟨failure | r, ended⟩
    · -- neither performing nor escalating looks at the shape
      obtain ⟨escaping, after, hescalate, -⟩ := exists_escalate spec failure ended
      exact .failed (call_eq_of_escalated hbind hperform hescalate)
        (call_eq_of_escalated hbind' hperform hescalate)
    · exact .reported hbind hperform (call_eq_of_performed hbind hperform)
        (call_returning_of_performed shape hbind hperform)

end Returning

end Invocation

/-! ## Affected rows -/

/-- The number of rows that a reply says were affected: none if it is negative or not known. -/
def Reply.affected (r : Reply) : Int := max 0 (r.rowCount.getD 0)

namespace Database

theorem knownRows_getD_zero (r : Reply) : (knownRows r).getD 0 = r.affected := by
  unfold knownRows Reply.affected
  cases r.rowCount with
  | none => rfl
  | some n =>
    by_cases hn : n < 0
    · simp [hn, Int.max_eq_left hn.le]
    · simp [hn, Int.max_eq_right (not_lt.1 hn)]

/-- The affected rows of some successive statements on a connection, the first of which has a
number. -/
def affectedFrom (c : Connection) (first count : Nat) : List Int :=
  (List.range count).map fun i => (c.reply (first + i)).affected

@[simp]
theorem length_affectedFrom (c : Connection) (first count : Nat) :
    (affectedFrom c first count).length = count := by
  rw [affectedFrom, List.length_map, List.length_range]

theorem affectedFrom_succ (c : Connection) (first count : Nat) :
    affectedFrom c first (count + 1) =
      (c.reply first).affected :: affectedFrom c (first + 1) count := by
  rw [affectedFrom, List.range_succ_eq_map, List.map_cons, List.map_map]
  refine congrArg (_ :: ·) (List.map_congr_left fun i _ => ?_)
  exact congrArg (fun n => (c.reply n).affected) (by omega)

/-- Nothing keeps a database from executing a statement for each of some lists of values: there is a
cursor, values can be noted where that is wanted, and no statement fails, of which the first one has
a number. -/
structure Serves (d : Database) (c : Connection) (sets : List (List Value)) (first : Nat) :
    Prop where
  connection_eq : d.connection = some c
  opens : c.cursorFailure = none
  style_eq : ∃ style : MarkerStyle, d.style = style.word
  noted : ∀ values ∈ sets, d.noted (.list values) = .ok ()
  answers : ∀ i < sets.length, (c.reply (first + i)).failure = none

section Batch

variable {d : Database} {c : Connection} {s : Statement} {sets : List (List Value)}
  {activity after : Activity}

theorem exists_sendBatch (hnoted : ∀ values ∈ sets, d.noted (.list values) = .ok ())
    (hanswers : ∀ i < sets.length, (c.reply (activity.sent c.serial + i)).failure = none) :
    ∃ after, d.sendBatch c s (sets.map .list) activity =
      (.ok (affectedFrom c (activity.sent c.serial) sets.length), after) := by
  induction sets generalizing activity with
  | nil => exact ⟨_, rfl⟩
  | cons values rest ih =>
    obtain ⟨hvalues, hrest⟩ := List.forall_mem_cons.1 hnoted
    have hanswer : c.answer (activity.sent c.serial) = .ok (c.reply (activity.sent c.serial)) := by
      have hnone := hanswers 0 (by simp)
      rw [Nat.add_zero] at hnone
      rw [Connection.answer, hnone]
    obtain ⟨journal, hnote⟩ := d.noteValues_run (.list values) activity
    rw [hvalues] at hnote
    have hitems : (Value.list values).toItems = .ok values := rfl
    have hsend := c.send_run s.sql (d.driverParameters values) { activity with journal }
    rw [hanswer] at hsend
    -- the replies to the rest are counted from the one behind the first
    have hlater : ∀ i < rest.length, (c.reply ((c.sentOn s.sql (d.driverParameters values)
        { activity with journal }).sent c.serial + i)).failure = none := by
      intro i hi
      have hnumber : activity.sent c.serial + (i + 1) = activity.sent c.serial + 1 + i := by omega
      have hnext := hanswers (i + 1) (by simpa using hi)
      rwa [Connection.sentOn_sent, ← hnumber]
    obtain ⟨after, hothers⟩ := ih hrest hlater
    refine ⟨after, ?_⟩
    rw [List.map_cons, sendBatch, Act.bind_run_ok hnote, hitems,
      Act.bind_run_ok (Act.ofExcept_run _ _), Act.bind_run_ok hsend, Act.map_run, hothers,
      Connection.sentOn_sent, knownRows_getD_zero, List.length_cons, affectedFrom_succ]
    rfl

/-- What executing a batch reports: the numbers for the single lists of values and their sum. -/
def batchReport (counts : List Int) : UnitResult := { rowsAffected := counts.sum, perRow := counts }

/-- On a connection that has a cursor to give, the report of a batch is told by its lists of
values. -/
theorem executeBatch_of_cursor (hconnection : d.connection = some c)
    (hcursor : c.cursorFailure = none) (s : Statement) (sets : List (List Value))
    (activity : Activity) :
    ∃ opened, opened.sent = activity.sent ∧
      (d.executeBatch s (.list (sets.map .list)) activity).1 =
        (d.sendBatch c s (sets.map .list) opened).1.map batchReport := by
  have hcount : (Value.list (sets.map .list)).count = .ok (sets.map Value.list).length := rfl
  have hitems : (Value.list (sets.map .list)).toItems = .ok (sets.map Value.list) := rfl
  rw [executeBatch, Act.bind_run_ok (Act.note_run _ _ _ _), hcount,
    Act.bind_run_ok (Act.ofExcept_run _ _), Act.bind_run_ok (Act.note_run _ _ _ _),
    Act.bind_run_ok (connected_run hconnection _),
    Act.bind_run_ok (Connection.openCursor_run hcursor _), hitems]
  dsimp only
  generalize hopened : ({ activity with
      journal := _, events := activity.events ++ [.openCursor] } : Activity) = opened
  refine ⟨opened, by rw [← hopened], ?_⟩
  have hsend := Act.bind_run_ok (f := d.sendBatch c s)
    (Act.ofExcept_run (.ok (sets.map Value.list)) opened)
  have hclosed := Connection.ensuring_closeCursor_run
    (Act.ofExcept (.ok (sets.map Value.list)) >>= d.sendBatch c s) opened
  rcases hsent : d.sendBatch c s (sets.map .list) opened with ⟨failure | counts, between⟩
  · rw [hsend, hsent] at hclosed
    rw [Act.bind_run_error hclosed]
    rfl
  · rw [hsend, hsent] at hclosed
    rw [Act.bind_run_ok hclosed, Act.bind_run_ok (Act.note_run _ _ _ _)]
    simp only [← List.sum_eq_foldl]
    rfl

theorem exists_executeBatch (h : d.Serves c sets (activity.sent c.serial)) (s : Statement) :
    ∃ after, d.executeBatch s (.list (sets.map .list)) activity =
      (.ok (batchReport (affectedFrom c (activity.sent c.serial) sets.length)), after) := by
  obtain ⟨opened, hopened, hreport⟩ :=
    executeBatch_of_cursor h.connection_eq h.opens s sets activity
  have hanswers : ∀ i < sets.length, (c.reply (opened.sent c.serial + i)).failure = none := by
    rw [hopened]
    exact h.answers
  obtain ⟨after, hsent⟩ := exists_sendBatch (s := s) h.noted hanswers
  rw [hsent, hopened] at hreport
  exact ⟨_, Prod.ext hreport rfl⟩

theorem length_of_sendBatch {counts : List Int}
    (h : d.sendBatch c s (sets.map .list) activity = (.ok counts, after)) :
    counts.length = sets.length := by
  induction sets generalizing activity counts with
  | nil =>
    cases h
    rfl
  | cons values rest ih =>
    rw [List.map_cons, sendBatch] at h
    obtain ⟨_, _, -, h⟩ := Act.exists_of_bind_run_ok h
    obtain ⟨_, _, -, h⟩ := Act.exists_of_bind_run_ok h
    obtain ⟨_, _, -, h⟩ := Act.exists_of_bind_run_ok h
    obtain ⟨others, _, hothers, h⟩ := Act.exists_of_bind_run_ok h
    cases h
    rw [List.length_cons, List.length_cons, ih hothers]

theorem connection_eq_of_connected (h : d.connected activity = (.ok c, after)) :
    d.connection = some c := by
  cases hconnection : d.connection with
  | none =>
    rw [connected, hconnection] at h
    cases h
  | some c' =>
    rw [connected_run hconnection] at h
    cases h
    rfl

theorem cursorFailure_of_openCursor (h : c.openCursor activity = (.ok (), after)) :
    c.cursorFailure = none := by
  cases hcursor : c.cursorFailure with
  | none => rfl
  | some failure =>
    rw [Connection.openCursor, Act.bind_run_ok (Act.observe_run _ _), hcursor] at h
    cases h

/-- Whatever the driver does, a batch that is reported has a number of affected rows for every list
of values, and their sum for all of them together. -/
theorem report_of_executeBatch {r : UnitResult}
    (h : d.executeBatch s (.list (sets.map .list)) activity = (.ok r, after)) :
    r = batchReport r.perRow ∧ r.perRow.length = sets.length := by
  obtain ⟨c, hconnection, hcursor⟩ : ∃ c, d.connection = some c ∧ c.cursorFailure = none := by
    obtain ⟨_, _, -, h⟩ := Act.exists_of_bind_run_ok h
    obtain ⟨_, _, -, h⟩ := Act.exists_of_bind_run_ok h
    obtain ⟨_, _, -, h⟩ := Act.exists_of_bind_run_ok h
    obtain ⟨c, _, hconnected, h⟩ := Act.exists_of_bind_run_ok h
    obtain ⟨_, _, hopen, h⟩ := Act.exists_of_bind_run_ok h
    exact ⟨c, connection_eq_of_connected hconnected, cursorFailure_of_openCursor hopen⟩
  obtain ⟨opened, -, hreport⟩ := executeBatch_of_cursor hconnection hcursor s sets activity
  rw [h] at hreport
  obtain ⟨counts, hcounts, rfl⟩ := except_map_ok hreport.symm
  exact ⟨rfl, length_of_sendBatch (Prod.ext hcounts rfl)⟩

end Batch

end Database

namespace Invocation

variable {spec : Spec} {convention : AccessorConvention} {arguments : List Value}
  {activity bound ended : Activity} {c : Invocation} {r : UnitResult}

/-- A batch that is bound has a list of values for every row. -/
theorem length_of_bind_batch (hbatch : spec.isBatch = true)
    (h : bind spec convention arguments activity = (.ok c, bound)) :
    c.state = .batchBound ∧ Batch.HasLength arguments c.parameterSets.length := by
  rcases bind_cases h with ⟨hsingle, -⟩ | ⟨-, n, columns, sets, between, hcolumns, hsets, rfl⟩
  · rw [hbatch] at hsingle
    cases hsingle
  · obtain ⟨hlength, -⟩ := lengths_of_bindRows hsets
    rw [Batch.rows_length] at hlength
    obtain ⟨hn, -⟩ := Batch.hasLength_of_columns (.of_probe ⟨_, _, hcolumns⟩)
    exact ⟨rfl, hlength ▸ hn⟩

/-- What a database reports for a batch. -/
theorem report_of_perform {d : Database} (hstate : c.state = .batchBound)
    (h : perform spec d.unit c bound = (.ok r, ended)) :
    r = Database.batchReport r.perRow ∧ r.perRow.length = c.parameterSets.length := by
  rw [perform, if_pos hstate] at h
  split at h
  next hempty =>
    obtain ⟨-, rfl⟩ := Prod.mk.inj h
    cases h
    exact ⟨rfl, (List.length_eq_zero_iff.2 (List.isEmpty_iff.1 hempty)).symm⟩
  next =>
    obtain ⟨s, prepared, -, h⟩ := Act.exists_of_bind_run_ok h
    exact Database.report_of_executeBatch h

/-- What a database that serves a batch reports for it. -/
theorem exists_perform_batch {d : Database} {connection : Connection}
    (hkeys : spec.wantsKeys = false) (hstate : c.state = .batchBound)
    (h : c.parameterSets = [] ∨
      d.Serves connection c.parameterSets (bound.sent connection.serial)) :
    ∃ ended, perform spec d.unit c bound =
      (.ok (Database.batchReport (Database.affectedFrom connection (bound.sent connection.serial)
        c.parameterSets.length)), ended) := by
  by_cases hempty : c.parameterSets = []
  · obtain ⟨ended, hperform, -⟩ := exists_perform_empty spec d.unit hstate hempty bound
    rw [hempty]
    exact ⟨ended, hperform⟩
  · have hserves := h.resolve_left hempty
    obtain ⟨style, hstyle⟩ := hserves.style_eq
    obtain ⟨journal, hprepare⟩ :=
      d.prepare_run spec.template spec.keys spec.keyColumns bound
    have htext : d.dialect.statementText bound.surroundings.sqliteVersion d.style spec.template
        spec.keys spec.keyColumns = .ok (spec.template.render style) := by
      rw [Dialect.statementText_of_rendered (hstyle ▸ Template.renderAs_word spec.template style),
        d.dialect.returnsKeys_of_not_isWanted _ hkeys]
      rfl
    rw [htext] at hprepare
    have hprepared : d.Serves connection c.parameterSets
        (({ bound with journal } : Activity).sent connection.serial) := hserves
    obtain ⟨ended, hexecute⟩ := Database.exists_executeBatch hprepared _
    have hsome : ¬ c.parameterSets.isEmpty = true := by simpa using hempty
    rw [perform, if_pos hstate, if_neg hsome]
    exact ⟨ended, (Act.bind_run_ok hprepare).trans hexecute⟩

/-! ## Agreement -/

/-- The answer with the number of affected rows for every row of a batch agrees with the answer with
one number: both are the same failure, or the one number is the sum of the others. -/
inductive CountsAgree (arguments : List Value) :
    Except Failure Value → Except Failure Value → Prop
  | failed (failure : Failure) : CountsAgree arguments (.error failure) (.error failure)
  | summed {counts : List Int} : Batch.HasLength arguments counts.length →
      CountsAgree arguments (.ok (.list (counts.map .int))) (.ok (.int counts.sum))

theorem extract_counts (hkeys : spec.wantsKeys = false) (hreturns : spec.returns = .counts)
    (r : UnitResult) (activity : Activity) :
    (outcomeOf spec r).extract spec.returns spec.keys activity =
      (.ok (.list (r.perRow.map .int)), activity) := by
  rw [outcomeOf, hkeys, hreturns]
  rfl

theorem extract_count (hkeys : spec.wantsKeys = false) (r : UnitResult) (activity : Activity) :
    (outcomeOf (spec.returning .count) r).extract .count spec.keys activity =
      (.ok (.int r.rowsAffected), activity) := by
  have hkeys' : (spec.returning .count).wantsKeys = false := hkeys
  rw [outcomeOf, hkeys']
  rfl

/-- Whatever a driver does, the two answers about affected rows agree. -/
theorem countsAgree_call (h : spec.IsConsistent) (hreturns : spec.returns = .counts)
    (convention : AccessorConvention) (d : Database) (arguments : List Value)
    (activity : Activity) :
    CountsAgree arguments (call spec convention d.unit arguments activity).1
      (call (spec.returning .count) convention d.unit arguments activity).1 := by
  have hkeys : spec.wantsKeys = false := by rw [h.wantsKeys_eq, hreturns]; rfl
  cases callsAlike spec .count convention d.unit arguments activity with
  | @failed failure after hcall hcall' =>
    rw [hcall, hcall']
    exact .failed failure
  | reported hbind hperform hcall hcall' =>
    rw [extract_counts hkeys hreturns] at hcall
    rw [extract_count hkeys] at hcall'
    obtain ⟨hstate, hlength⟩ := length_of_bind_batch (h.batch_of_counts hreturns) hbind
    obtain ⟨hreport, hrows⟩ := report_of_perform hstate hperform
    rw [hcall, hcall', hreport]
    exact .summed (hrows ▸ hlength)

/-- The values are the first columns of key rows, in order. -/
def FirstColumns (rows vs : List Value) : Prop :=
  List.Forall₂ (fun row v => ∃ others, row.sequence? = some (v :: others)) rows vs

theorem extract_keys (hreturns : spec.returns = .keys) (hmode : spec.keys = .firstColumn)
    {vs : List Value} (h : FirstColumns r.keys vs) (activity : Activity) :
    (outcomeOf spec r).extract spec.returns spec.keys activity = (.ok (.list vs), activity) := by
  have hkeys : spec.wantsKeys = true := by rw [Spec.wantsKeys, hmode]; rfl
  have heach : Outcome.eachRow Outcome.firstItem r.keys = .ok vs := by
    refine Outcome.eachRow_of_forall₂ (h.imp ?_)
    rintro row v ⟨others, hrow⟩
    exact Outcome.firstItem_of_sequence? hrow
  rw [outcomeOf, hkeys, hreturns, hmode]
  show Act.ofExcept (Outcome.extractKeys true r.keys) activity = _
  rw [Outcome.extractKeys, if_pos rfl, heach]
  rfl

/-- The traces after it was noted that there is no key to answer. -/
def noteNoKey (activity : Activity) : Activity :=
  { activity with
    journal := activity.journal ++ [⟨.warning, .extraction, "No generated keys were returned"⟩] }

/-- What is answered when one key is wanted. -/
inductive FirstKey (activity : Activity) : List Value → Except Failure Value × Activity → Prop
  | missing : FirstKey activity [] (.ok .none, noteNoKey activity)
  | found (v : Value) (rest : List Value) : FirstKey activity (v :: rest) (.ok v, activity)

theorem extract_key (hmode : spec.keys = .firstColumn) {vs : List Value}
    (h : FirstColumns r.keys vs) (activity : Activity) :
    FirstKey activity vs
      ((outcomeOf (spec.returning .key) r).extract .key spec.keys activity) := by
  have hkeys : (spec.returning .key).wantsKeys = true := by
    show spec.wantsKeys = true
    rw [Spec.wantsKeys, hmode]
    rfl
  rw [outcomeOf, hkeys]
  show FirstKey activity vs (Outcome.extractKey r.keys activity)
  generalize r.keys = rows at h
  cases h with
  | nil => exact .missing
  | @cons row v rows rest hrow =>
    obtain ⟨others, hrow⟩ := hrow
    have hextract : Outcome.extractKey (row :: rows) activity = (.ok v, activity) := by
      rw [Outcome.extractKey, Outcome.firstItem_of_sequence? hrow]
      rfl
    rw [hextract]
    exact .found v rest

/-- An update that was declared with one of the finer shapes can be declared with the coarser one as
well, and calls of the two agree, whatever the driver does.

For a batch of `n` rows that a database serves, the answer is a list of `n` numbers, those that the
driver told for the single rows, or their sum.  For generated keys it is the list of the first
columns of the key rows that the unit reported, or the first item of this list; nothing is answered
and noted in its place exactly if the list is empty. -/
theorem shapes_agree {request : SpecRequest} {declared : Activity} {spec : Spec}
    (hbuild : (Spec.build request declared).1 = .ok spec) (convention : AccessorConvention)
    (arguments : List Value) (activity : Activity) :
    (spec.returns = .counts →
      (Spec.build { request with returns := .text ReturnShape.count.word } declared).1 =
        .ok (spec.returning .count) ∧
      ∀ d : Database,
        CountsAgree arguments (call spec convention d.unit arguments activity).1
          (call (spec.returning .count) convention d.unit arguments activity).1 ∧
        ∀ n connection c bound, Batch.HasLength arguments n →
          bind spec convention arguments activity = (.ok c, bound) →
          (n = 0 ∨ d.Serves connection c.parameterSets (activity.sent connection.serial)) →
          let counts := Database.affectedFrom connection (activity.sent connection.serial) n
          counts.length = n ∧
            (call spec convention d.unit arguments activity).1 = .ok (.list (counts.map .int)) ∧
            (call (spec.returning .count) convention d.unit arguments activity).1 =
              .ok (.int counts.sum)) ∧
    (spec.returns = .keys → spec.keys = .firstColumn →
      (Spec.build { request with returns := .text ReturnShape.key.word } declared).1 =
        .ok (spec.returning .key) ∧
      ∀ u, CallsAlike spec .key convention u arguments activity ∧
        ∀ c bound r ended, bind spec convention arguments activity = (.ok c, bound) →
          perform spec u c bound = (.ok r, ended) → (∀ row ∈ r.keys, row.HasColumn) →
          ∃ vs, FirstColumns r.keys vs ∧
            call spec convention u arguments activity = (.ok (.list vs), ended) ∧
            FirstKey ended vs (call (spec.returning .key) convention u arguments activity)) := by
  have hconsistent := Spec.isConsistent_of_build hbuild
  constructor
  · intro hreturns
    have hkeys : spec.wantsKeys = false := by rw [hconsistent.wantsKeys_eq, hreturns]; rfl
    have hbatch := hconsistent.batch_of_counts hreturns
    have hfits : Spec.modeFault? spec.name spec.isBatch spec.keys .count spec.keyColumns = none :=
      hconsistent.modeFault?_eq_none (by rw [hreturns]; rfl) nofun
    refine ⟨Spec.build_returning hbuild hfits, fun d =>
      ⟨countsAgree_call hconsistent hreturns convention d arguments activity, ?_⟩⟩
    intro n connection c bound hlength hbind hserves counts
    obtain ⟨hstate, hrows⟩ := length_of_bind_batch hbatch hbind
    obtain rfl : c.parameterSets.length = n := hrows.unique hlength
    obtain ⟨counted, rfl⟩ := countsOnly_bind spec convention arguments hbind
    have hserved : c.parameterSets = [] ∨ d.Serves connection c.parameterSets
        (({ activity with counts := counted } : Activity).sent connection.serial) :=
      hserves.imp_left List.length_eq_zero_iff.1
    obtain ⟨ended, hperform⟩ := exists_perform_batch hkeys hstate hserved
    refine ⟨Database.length_affectedFrom connection _ _, ?_, ?_⟩
    · rw [call_eq_of_performed hbind hperform, extract_counts hkeys hreturns]
      rfl
    · rw [call_returning_of_performed .count hbind hperform, extract_count hkeys]
      rfl
  · intro hreturns hmode
    have hfits : Spec.modeFault? spec.name spec.isBatch spec.keys .key spec.keyColumns = none :=
      hconsistent.modeFault?_eq_none (by rw [hreturns]; rfl) nofun
    refine ⟨Spec.build_returning hbuild hfits, fun u =>
      ⟨callsAlike spec .key convention u arguments activity, ?_⟩⟩
    intro c bound r ended hbind hperform hcolumns
    obtain ⟨vs, hvs⟩ := Spec.exists_forall₂ hcolumns
    refine ⟨vs, hvs, ?_, ?_⟩
    · rw [call_eq_of_performed hbind hperform]
      exact extract_keys hreturns hmode hvs ended
    · rw [call_returning_of_performed .key hbind hperform]
      exact extract_key hmode hvs ended

/-- A driver tells two affected rows for the first row of a batch, none for the second, and a
negative number for the third; another one returns two rows of keys, the second without a value. -/
theorem shapes_agree_unknown_counts :
    let batch : SpecRequest :=
      { sql := .text "SET a = ?1", batch := .bool true
        returns := .text ReturnShape.counts.word }
    let single : SpecRequest :=
      { sql := .text "INSERT ?1", keys := .text KeyRequest.firstColumn.word
        returns := .text ReturnShape.keys.word }
    let connection : Connection :=
      { script := [{ rowCount := some 2 }, { rowCount := none }, { rowCount := some (-1) }] }
    let d : Database := { dialect := .generic, connection := some connection }
    let returned : Connection :=
      { script := [{ rows := some [.tuple [.int 5, .text "a"], .list [.none]] }] }
    let e : Database := { dialect := .postgres, connection := some returned, style := "pyformat" }
    let rows : List Value := [.list [.int 7, .int 8, .int 9]]
    ∃ counts keys, (Spec.build batch {}).1 = .ok counts ∧ (Spec.build single {}).1 = .ok keys ∧
      (call counts {} d.unit rows {}).1 = .ok (.list [.int 2, .int 0, .int 0]) ∧
      (call (counts.returning .count) {} d.unit rows {}).1 = .ok (.int 2) ∧
      (call keys {} e.unit [.int 7] {}).1 = .ok (.list [.int 5, .none]) ∧
      (call (keys.returning .key) {} e.unit [.int 7] {}).1 = .ok (.int 5) := by
  intro batch single connection d returned e rows
  let counts : Spec :=
    { template := { source := "SET a = ?1", segments :=
        [.literal "SET a = ", .placeholder { index := 1 }] }
      batch := .bool true, returns := .counts }
  let keys : Spec :=
    { template := { source := "INSERT ?1", segments :=
        [.literal "INSERT ", .placeholder { index := 1 }] }
      keys := .firstColumn, returns := .keys }
  obtain ⟨_, hcounts⟩ : ∃ framed, Spec.frame batch {} = (.ok counts, framed) :=
    ⟨_, by with_unfolding_all rfl⟩
  obtain ⟨_, hkeys⟩ : ∃ framed, Spec.frame single {} = (.ok keys, framed) :=
    ⟨_, by with_unfolding_all rfl⟩
  have hbatch : (Spec.build batch {}).1 = .ok counts := Spec.build_of_frame rfl rfl hcounts rfl
  have hsingle : (Spec.build single {}).1 = .ok keys := Spec.build_of_frame rfl rfl hkeys rfl
  have hcounted : (call counts {} d.unit rows {}).1 = .ok (.list [.int 2, .int 0, .int 0]) ∧
      (call (counts.returning .count) {} d.unit rows {}).1 = .ok (.int 2) := by
    obtain ⟨-, hserved⟩ := ((shapes_agree hbatch {} rows {}).1 rfl).2 d
    obtain ⟨c, bound, hbind⟩ := Act.exists_ok_of_isOk
      (show (bind counts {} rows {}).1.isOk = true by decide +kernel)
    have hlength : Batch.HasLength rows 3 :=
      Batch.hasLength_of_sequences (List.cons_ne_nil _ _) (by simp [rows, Value.sequence?])
    have hsets : c.parameterSets.length = 3 := (length_of_bind_batch rfl hbind).2.unique hlength
    -- the driver cannot tell a number for the second set and for the third
    have hserves : d.Serves connection c.parameterSets 0 := by
      refine ⟨rfl, rfl, ⟨.qmark, rfl⟩, fun _ _ => rfl, fun i hi => ?_⟩
      have hi' : i < 3 := hsets ▸ hi
      interval_cases i <;> rfl
    exact (hserved 3 connection c bound hlength hbind (.inr hserves)).2
  have hkeyed : (call keys {} e.unit [.int 7] {}).1 = .ok (.list [.int 5, .none]) ∧
      (call (keys.returning .key) {} e.unit [.int 7] {}).1 = .ok (.int 5) := by
    obtain ⟨-, hreported⟩ := (shapes_agree hsingle {} [.int 7] {}).2 rfl rfl
    obtain ⟨c, bound, hbind, r, ended, hperform, hkeys⟩ : ∃ c bound,
        bind keys {} [.int 7] {} = (.ok c, bound) ∧ ∃ r ended,
          perform keys e.unit c bound = (.ok r, ended) ∧
            r.keys = [.tuple [.int 5, .text "a"], .tuple [.none]] := ⟨_, _, rfl, _, _, rfl, rfl⟩
    have hcolumns : ∀ row ∈ r.keys, row.HasColumn := by
      rw [hkeys]
      exact List.forall_mem_cons.2 ⟨⟨_, _, rfl⟩, List.forall_mem_singleton.2 ⟨_, _, rfl⟩⟩
    obtain ⟨vs, hvs, hcall, hcall'⟩ := (hreported e.unit).2 c bound r ended hbind hperform hcolumns
    rw [hkeys] at hvs
    obtain ⟨first, _, ⟨_, hfirst⟩, hrest, rfl⟩ := List.forall₂_cons_left_iff.1 hvs
    obtain ⟨second, _, ⟨_, hsecond⟩, hnone, rfl⟩ := List.forall₂_cons_left_iff.1 hrest
    cases hfirst
    cases hsecond
    cases hnone
    rcases hkey : call (keys.returning .key) {} e.unit [.int 7] {} with ⟨answer, after⟩
    rw [hkey] at hcall'
    cases hcall'
    exact ⟨by rw [hcall], rfl⟩
  exact ⟨counts, keys, hbatch, hsingle, hcounted.1, hcounted.2, hkeyed⟩

end Invocation
end BoundUpdate
