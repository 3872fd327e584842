import BoundUpdate.Backend.Database
import BoundUpdate.Proofs.Activity.Running

namespace BoundUpdate

/-!
# What a driver is asked for

Executing a prepared statement is one exchange with the driver: a cursor is
opened, the text of the statement is sent with lists of parameters in order,
rows are fetched at most once, and the cursor is closed, whether a step between
failed or not.  A batch sends its lists up to the first failure and sends none
of them twice.  The text was fixed when the statement was prepared, before any
value was known.
-/

/-! ## Single operations on a connection -/

namespace Connection

/-- What a connection answers to the statement with a number, counted from zero. -/
def answer (c : Connection) (n : Nat) : Except Failure Reply :=
  match (c.reply n).failure with
  | some failure => .error failure
  | none => .ok (c.reply n)

/-- The traces after a statement was sent. -/
def sentOn (c : Connection) (sql : String) (parameters : Value) (activity : Activity) : Activity :=
  { activity with
    events := activity.events ++ [.send sql parameters]
    sent := fun other =>
      if other = c.serial then activity.sent c.serial + 1 else activity.sent other }

@[simp]
theorem sentOn_events (c : Connection) (sql : String) (parameters : Value) (activity : Activity) :
    (c.sentOn sql parameters activity).events = activity.events ++ [.send sql parameters] := rfl

@[simp]
theorem sentOn_sent (c : Connection) (sql : String) (parameters : Value) (activity : Activity) :
    (c.sentOn sql parameters activity).sent c.serial = activity.sent c.serial + 1 := if_pos rfl

theorem send_run (c : Connection) (sql : String) (parameters : Value) (activity : Activity) :
    c.send sql parameters activity =
      (c.answer (activity.sent c.serial), c.sentOn sql parameters activity) := by
  show (failWith (c.reply (activity.sent c.serial)).failure >>= fun _ =>
    pure (c.reply (activity.sent c.serial))) (c.sentOn sql parameters activity) = _
  unfold answer
  cases (c.reply (activity.sent c.serial)).failure <;> rfl

theorem openCursor_run {c : Connection} (h : c.cursorFailure = none) (activity : Activity) :
    c.openCursor activity =
      (.ok (), { activity with events := activity.events ++ [.openCursor] }) := by
  rw [openCursor, h]
  rfl

/-- Fetching rows is observable, also when it fails. -/
theorem fetch_bind_ofExcept_events {α : Type} (r : Reply) (f : List Value → Except Failure α)
    (activity : Activity) :
    ((fetch r >>= fun rows => Act.ofExcept (f rows)) activity).2.events =
      activity.events ++ [.fetch] := by
  unfold fetch
  cases r.fetchFailure <;> rfl

/-- A cursor is closed after what was done with it, also when that failed. -/
theorem ensuring_closeCursor_run {α : Type} (x : Act α) (activity : Activity) :
    Act.ensuring x closeCursor activity =
      ((x activity).1, { (x activity).2 with events := (x activity).2.events ++ [.closeCursor] }) :=
  rfl

end Connection

/-! ## The text of a statement -/

namespace Dialect

/-- Whether the text of a statement ends with a returning clause; `version` is the version of the
embedded engine. -/
def returnsKeys (dialect : Dialect) (version : String) (keys : KeyRequest)
    (columns : List Value) : Bool :=
  keys.isWanted && match dialect with
    | .postgres => true
    | .sqlite => keys == .columns && !columns.isEmpty &&
        !Database.precedes (Database.versionNumbers version) [3, 35, 0]
    | .mysql => false
    | .generic => false

theorem returnsKeys_of_not_isWanted (dialect : Dialect) (version : String) {keys : KeyRequest}
    (h : keys.isWanted = false) (columns : List Value) :
    dialect.returnsKeys version keys columns = false := by
  simp only [returnsKeys, h, Bool.false_and]

/-- The text that a driver is sent for a template. -/
def statementText (dialect : Dialect) (version style : String) (t : Template) (keys : KeyRequest)
    (columns : List Value) : Except Failure String := do
  let sql ← t.renderAs style
  if dialect.returnsKeys version keys columns then Returning.append sql columns else return sql

section StatementText

variable {dialect : Dialect} {version style : String} {t : Template} {keys : KeyRequest}
  {columns : List Value}

theorem statementText_of_rendered {sql : String} (h : t.renderAs style = .ok sql) :
    dialect.statementText version style t keys columns =
      if dialect.returnsKeys version keys columns then Returning.append sql columns
      else .ok sql := by
  rw [statementText, h]
  rfl

theorem statementText_of_not_rendered {failure : Failure} (h : t.renderAs style = .error failure) :
    dialect.statementText version style t keys columns = .error failure := by
  rw [statementText, h]
  rfl

end StatementText

end Dialect

namespace Database

section Prepare

variable {d : Database} {t : Template} {keys : KeyRequest} {columns : List Value}
  {activity after : Activity}

theorem usesReturning_run (d : Database) (hwanted : keys.isWanted = true) (columns : List Value)
    (activity : Activity) :
    ∃ journal, d.usesReturning keys columns activity =
      (.ok (d.dialect.returnsKeys activity.surroundings.sqliteVersion keys columns),
        { activity with journal }) := by
  unfold usesReturning Dialect.returnsKeys
  rw [hwanted, Bool.true_and]
  cases d.dialect with
  | postgres => exact ⟨_, rfl⟩
  | mysql => exact ⟨_, rfl⟩
  | generic => exact ⟨_, rfl⟩
  | sqlite =>
    by_cases hcolumns : (keys != .columns || columns.isEmpty) = true
    · have hnone : (keys == .columns && !columns.isEmpty) = false := by grind
      rw [if_pos hcolumns, hnone, Bool.false_and]
      exact ⟨_, rfl⟩
    · have hsome : (keys == .columns && !columns.isEmpty) = true := by simpa [bne] using hcolumns
      rw [if_neg hcolumns, hsome, Bool.true_and]
      show ∃ journal, (if precedes (versionNumbers activity.surroundings.sqliteVersion) [3, 35, 0]
        then Act.note .warning .sqlite _ >>= fun _ => pure false else pure true) activity = _
      cases hold : precedes (versionNumbers activity.surroundings.sqliteVersion) [3, 35, 0] with
      | true => exact ⟨_, rfl⟩
      | false => exact ⟨_, rfl⟩

/-- Preparing gives a statement with the text of its dialect, or fails as that does. -/
theorem prepare_run (d : Database) (t : Template) (keys : KeyRequest) (columns : List Value)
    (activity : Activity) :
    ∃ journal, d.prepare t keys columns activity =
      ((d.dialect.statementText activity.surroundings.sqliteVersion d.style t keys columns).map
          fun sql =>
            { template := t, sql, keys, keyColumns := columns
              returning :=
                d.dialect.returnsKeys activity.surroundings.sqliteVersion keys columns },
        { activity with journal }) := by
  unfold prepare
  cases hrendered : t.renderAs d.style with
  | error failure =>
    rw [Dialect.statementText_of_not_rendered hrendered]
    exact ⟨_, rfl⟩
  | ok sql =>
    rw [Dialect.statementText_of_rendered hrendered, Act.bind_run_ok (Act.ofExcept_run _ _)]
    by_cases hwanted : keys.isWanted = true
    · obtain ⟨journal, hrun⟩ := d.usesReturning_run hwanted columns activity
      rw [if_pos hwanted, Act.bind_run_ok hrun]
      cases d.dialect.returnsKeys activity.surroundings.sqliteVersion keys columns with
      | true => cases Returning.append sql columns <;> exact ⟨_, rfl⟩
      | false => exact ⟨_, rfl⟩
    · have hnone := d.dialect.returnsKeys_of_not_isWanted activity.surroundings.sqliteVersion
        (Bool.eq_false_iff.2 hwanted) columns
      rw [if_neg hwanted, hnone]
      exact ⟨_, rfl⟩

theorem prepare_ok {s : Statement} (h : d.prepare t keys columns activity = (.ok s, after)) :
    d.dialect.statementText activity.surroundings.sqliteVersion d.style t keys columns =
        .ok s.sql ∧
      s.returning = d.dialect.returnsKeys activity.surroundings.sqliteVersion keys columns := by
  obtain ⟨journal, hrun⟩ := d.prepare_run t keys columns activity
  rw [hrun] at h
  obtain ⟨hprepared, -⟩ := Prod.mk.inj h
  cases htext :
    d.dialect.statementText activity.surroundings.sqliteVersion d.style t keys columns with
  | error failure =>
    rw [htext] at hprepared
    cases hprepared
  | ok sql =>
    rw [htext] at hprepared
    cases hprepared
    exact ⟨rfl, rfl⟩

end Prepare

/-- The operations on a driver that execute a statement text with lists of values, one after
another on one cursor. -/
def exchange (d : Database) (sql : String) (sets : List (List Value)) (fetches : List Event) :
    List Event :=
  .openCursor :: (sets.map fun values => .send sql (d.driverParameters values)) ++ fetches ++
    [.closeCursor]

/-- Whether bound values can be noted, or need not be. -/
def noted (d : Database) (values : Value) : Except Failure Unit := do
  if ← d.logsBoundValues.truth then discard values.plain?

theorem noteValues_run (d : Database) (values : Value) (activity : Activity) :
    ∃ journal, d.noteValues values activity = (d.noted values, { activity with journal }) := by
  unfold noteValues noted
  cases d.logsBoundValues.truth with
  | error failure => exact ⟨_, rfl⟩
  | ok logs =>
    cases logs with
    | false => exact ⟨_, rfl⟩
    | true => cases values.plain? <;> exact ⟨_, rfl⟩

/-! ## Executing once -/

section Single

variable {d : Database} {c : Connection} {s : Statement} {activity after : Activity}

theorem keepsEvents_firstKeys (s : Statement) (r : Reply) : (firstKeys s r).KeepsEvents := by
  unfold firstKeys
  dsimp only
  split
  -- the note about columns apart, the same keys are collected
  on_goal 2 =>
    refine (Act.keepsEvents_ofExcept _).bind fun columns => ?_
    refine (Act.keepsEvents_note _ _ _).bind fun _ => ?_
  all_goals
    cases r.lastKey with
    | none => exact Act.keepsEvents_throw _
    | some key =>
      refine (Act.keepsEvents_ofExcept _).bind fun counts => ?_
      cases counts with
      | false => exact Act.keepsEvents_pure []
      | true =>
        cases r.rowCount with
        | none => exact Act.keepsEvents_throw _
        | some n => exact Act.keepsEvents_ofExcept _

/-- Rows are fetched at most once, and only those of a returning clause. -/
def FetchesOnce (s : Statement) (fetches : List Event) : Prop :=
  fetches = [] ∨ fetches = [.fetch] ∧ s.returning = true

theorem fetchKeys_events (d : Database) (s : Statement) (r : Reply) (activity : Activity) :
    ∃ fetches, FetchesOnce s fetches ∧
      (d.fetchKeys s r activity).2.events = activity.events ++ fetches := by
  unfold fetchKeys
  split
  · refine ⟨[], .inl rfl, ?_⟩
    rw [keepsEvents_firstKeys s r activity, List.append_nil]
  · split
    next hreturning =>
      cases r.rows with
      | none => exact ⟨[], .inl rfl, (List.append_nil _).symm⟩
      | some rows =>
        refine ⟨[.fetch], .inr ⟨rfl, hreturning⟩, ?_⟩
        exact Connection.fetch_bind_ofExcept_events r returnedKeys activity
    next => exact ⟨[], .inl rfl, (List.append_nil _).symm⟩

/-- The text is sent once; a failure of that is the last step before the cursor is closed. -/
theorem sendSingle_events {outcome : Except Failure (Int × List Value)}
    (h : d.sendSingle c s activity = (outcome, after)) :
    ∃ fetches, FetchesOnce s fetches ∧
      after.events =
        activity.events ++ .send s.sql (d.driverParameters s.parameters) :: fetches ∧
      ∀ failure, c.answer (activity.sent c.serial) = .error failure →
        fetches = [] ∧ outcome = .error failure := by
  have hsend := c.send_run s.sql (d.driverParameters s.parameters) activity
  unfold sendSingle at h
  rcases hanswer : c.answer (activity.sent c.serial) with failure | r
  · rw [hanswer] at hsend
    rw [Act.bind_run_error hsend] at h
    cases h
    refine ⟨[], .inl rfl, rfl, fun _ hfailure => ⟨rfl, ?_⟩⟩
    rw [Except.error.inj hfailure]
  · rw [hanswer] at hsend
    rw [Act.bind_run_ok hsend] at h
    split at h
    · rw [Act.map_run] at h
      obtain ⟨-, rfl⟩ := Prod.mk.inj h
      obtain ⟨fetches, hfetches, hevents⟩ := d.fetchKeys_events s r
        (c.sentOn s.sql (d.driverParameters s.parameters) activity)
      refine ⟨fetches, hfetches, ?_, fun _ hfailed => by cases hfailed⟩
      rw [hevents, Connection.sentOn_events, List.append_assoc]
      rfl
    · cases h
      exact ⟨[], .inl rfl, rfl, fun _ hfailed => by cases hfailed⟩

/-- How executing a statement once goes.  Its values may fail to be noted, before a cursor is asked
for.  Otherwise there is one exchange with the driver, which ends behind a statement that failed. -/
inductive ExecutedOnce (d : Database) (c : Connection) (s : Statement) (activity : Activity) :
    Except Failure UnitResult → Activity → Prop
  | unnoted {failure : Failure} {after : Activity} :
      d.noted (.list s.parameters) = .error failure → after.events = activity.events →
      ExecutedOnce d c s activity (.error failure) after
  | exchanged {outcome : Except Failure UnitResult} {after : Activity} {fetches : List Event} :
      FetchesOnce s fetches →
      after.events = activity.events ++ d.exchange s.sql [s.parameters] fetches →
      (∀ failure, c.answer (activity.sent c.serial) = .error failure →
        fetches = [] ∧ outcome = .error failure) →
      ExecutedOnce d c s activity outcome after

theorem connected_run (h : d.connection = some c) (activity : Activity) :
    d.connected activity = (.ok c, activity) := by
  rw [connected, h]
  rfl

theorem executedOnce_of_executeSingle (hconnection : d.connection = some c)
    (hcursor : c.cursorFailure = none) {outcome : Except Failure UnitResult}
    (h : d.executeSingle s activity = (outcome, after)) :
    ExecutedOnce d c s activity outcome after := by
  rw [executeSingle, Act.bind_run_ok (Act.note_run _ _ _ _)] at h
  obtain ⟨journal, hnote⟩ := d.noteValues_run (.list s.parameters)
    { activity with journal := activity.journal ++ [⟨.debug, .unit, "Execute SQL: " ++ s.sql⟩] }
  rcases hnoted : d.noted (.list s.parameters) with failure | ⟨⟩
  · rw [hnoted] at hnote
    rw [Act.bind_run_error hnote] at h
    cases h
    exact .unnoted hnoted rfl
  · rw [hnoted] at hnote
    rw [Act.bind_run_ok hnote, Act.bind_run_ok (connected_run hconnection _),
      Act.bind_run_ok (Connection.openCursor_run hcursor _)] at h
    rcases hsent : d.sendSingle c s
      { activity with journal, events := activity.events ++ [.openCursor] } with ⟨sent, between⟩
    obtain ⟨fetches, hfetches, hevents, hfailed⟩ := sendSingle_events hsent
    have hclosed := Connection.ensuring_closeCursor_run (d.sendSingle c s)
      { activity with journal, events := activity.events ++ [.openCursor] }
    rw [hsent] at hclosed
    have hexchange : between.events ++ [.closeCursor] =
        activity.events ++ d.exchange s.sql [s.parameters] fetches := by
      rw [hevents]
      simp [exchange]
    rcases sent with failure | ⟨rows, keys⟩
    · rw [Act.bind_run_error hclosed] at h
      cases h
      refine .exchanged hfetches hexchange fun failure' hanswer => ?_
      obtain ⟨hnone, hsame⟩ := hfailed failure' hanswer
      exact ⟨hnone, congrArg Except.error (Except.error.inj hsame)⟩
    · rw [Act.bind_run_ok hclosed] at h
      cases h
      refine .exchanged hfetches hexchange fun failure hanswer => ?_
      cases (hfailed failure hanswer).2

end Single

/-! ## Executing a batch -/

/-- How many of some lists of values were sent: all of them unless something failed, and the one
that failed was the last.  The replies to them start with the one of the number `n`. -/
structure SentFirst {α : Type} (d : Database) (c : Connection) (sets : List (List Value))
    (n k : Nat) (outcome : Except Failure α) : Prop where
  le : k ≤ sets.length
  all : ∀ r, outcome = .ok r → k = sets.length
  last : ∀ j < k, ∀ failure, c.answer (n + j) = .error failure →
    j + 1 = k ∧ outcome = .error failure
  /-- Without a failed reply, values that could not be noted were not sent. -/
  cause : ∀ failure, outcome = .error failure →
    (∃ j, j + 1 = k ∧ c.answer (n + j) = .error failure) ∨
      ∃ values, sets[k]? = some values ∧ d.noted (.list values) = .error failure

section Batch

variable {d : Database} {c : Connection} {s : Statement} {activity after : Activity}

theorem sentFirst_nil {n : Nat} : SentFirst d c [] n 0 (.ok [] : Except Failure (List Int)) where
  le := Nat.le_refl 0
  all := fun _ _ => rfl
  last := nofun
  cause := fun _ hfailed => by cases hfailed

theorem sentFirst_of_unnoted {α : Type} {values : List Value} {rest : List (List Value)} {n : Nat}
    {failure : Failure} (h : d.noted (.list values) = .error failure) :
    SentFirst d c (values :: rest) n 0 (.error failure : Except Failure α) where
  le := Nat.zero_le _
  all := nofun
  last := nofun
  cause := fun _ hsame =>
    .inr ⟨values, rfl, h.trans (congrArg Except.error (Except.error.inj hsame))⟩

theorem sentFirst_of_failed {α : Type} {values : List Value} {rest : List (List Value)} {n : Nat}
    {failure : Failure} (h : c.answer n = .error failure) :
    SentFirst d c (values :: rest) n 1 (.error failure : Except Failure α) where
  le := Nat.succ_le_succ (Nat.zero_le _)
  all := nofun
  last := fun j hj failure' hanswer => by
    obtain rfl : j = 0 := by omega
    rw [Nat.add_zero, h] at hanswer
    exact ⟨rfl, congrArg Except.error (Except.error.inj hanswer)⟩
  cause := fun _ hsame =>
    .inl ⟨0, rfl, h.trans (congrArg Except.error (Except.error.inj hsame))⟩

/-- One more list in front, which was sent and did not fail. -/
theorem SentFirst.cons {α β : Type} {values : List Value} {rest : List (List Value)} {n k : Nat}
    {r : Reply} {outcome : Except Failure α} {g : α → β} (hanswer : c.answer n = .ok r)
    (h : SentFirst d c rest (n + 1) k outcome) :
    SentFirst d c (values :: rest) n (k + 1) (outcome.map g) where
  le := Nat.succ_le_succ h.le
  all := fun b hb => by
    cases outcome with
    | error failure => cases hb
    | ok a => rw [h.all a rfl, List.length_cons]
  last := fun j hj failure hfailed => by
    cases j with
    | zero =>
      rw [Nat.add_zero, hanswer] at hfailed
      cases hfailed
    | succ j =>
      -- the reply to a later list is counted from the one behind the first
      have hnumber : n + (j + 1) = n + 1 + j := by omega
      rw [hnumber] at hfailed
      obtain ⟨hlast, rfl⟩ := h.last j (by omega) failure hfailed
      exact ⟨congrArg (· + 1) hlast, rfl⟩
  cause := fun failure hfailed => by
    cases outcome with
    | ok a => cases hfailed
    | error failure' =>
      cases hfailed
      rcases h.cause failure rfl with ⟨j, hj, hanswer⟩ | ⟨values', hvalues, hnoted⟩
      · exact .inl ⟨j + 1, congrArg (· + 1) hj, by rw [← hanswer]; congr 1; omega⟩
      · exact .inr ⟨values', hvalues, hnoted⟩

/-- Lists of values are sent in order up to the first failure. -/
theorem exists_sentFirst_of_sendBatch {sets : List (List Value)}
    {outcome : Except Failure (List Int)}
    (h : d.sendBatch c s (sets.map .list) activity = (outcome, after)) :
    ∃ k, SentFirst d c sets (activity.sent c.serial) k outcome ∧
      after.events = activity.events ++
        (sets.take k).map fun values => Event.send s.sql (d.driverParameters values) := by
  induction sets generalizing activity outcome with
  | nil =>
    cases h
    exact ⟨0, sentFirst_nil, (List.append_nil _).symm⟩
  | cons values rest ih =>
    rw [List.map_cons, sendBatch] at h
    obtain ⟨journal, hnote⟩ := d.noteValues_run (.list values) activity
    rcases hnoted : d.noted (.list values) with failure | ⟨⟩
    · rw [hnoted] at hnote
      rw [Act.bind_run_error hnote] at h
      cases h
      exact ⟨0, sentFirst_of_unnoted hnoted, (List.append_nil _).symm⟩
    · rw [hnoted] at hnote
      have hitems : (Value.list values).toItems = .ok values := rfl
      have hsend := c.send_run s.sql (d.driverParameters values) { activity with journal }
      rw [Act.bind_run_ok hnote, hitems, Act.bind_run_ok (Act.ofExcept_run _ _)] at h
      rcases hanswer : c.answer (activity.sent c.serial) with failure | r
      · rw [hanswer] at hsend
        rw [Act.bind_run_error hsend] at h
        cases h
        exact ⟨1, sentFirst_of_failed hanswer, rfl⟩
      · rw [hanswer] at hsend
        rw [Act.bind_run_ok hsend, Act.map_run] at h
        obtain ⟨rfl, rfl⟩ := Prod.mk.inj h
        obtain ⟨k, hfirst, hevents⟩ := ih rfl
        refine ⟨k + 1, SentFirst.cons hanswer ?_, ?_⟩
        · rwa [Connection.sentOn_sent] at hfirst
        · rw [hevents, Connection.sentOn_events, List.append_assoc]
          rfl

/-- What is made of the answer in the end does not matter. -/
theorem SentFirst.map {α β : Type} {sets : List (List Value)} {n k : Nat}
    {outcome : Except Failure α} (h : SentFirst d c sets n k outcome) (g : α → β) :
    SentFirst d c sets n k (outcome.map g) where
  le := h.le
  all := fun b hb => by
    cases outcome with
    | error failure => cases hb
    | ok a => exact h.all a rfl
  last := fun j hj failure hfailed => by
    obtain ⟨hlast, rfl⟩ := h.last j hj failure hfailed
    exact ⟨hlast, rfl⟩
  cause := fun failure hfailed => by
    cases outcome with
    | ok a => cases hfailed
    | error failure' =>
      cases hfailed
      exact h.cause failure rfl

theorem exists_sentFirst_of_executeBatch (hconnection : d.connection = some c)
    (hcursor : c.cursorFailure = none) {sets : List (List Value)}
    {outcome : Except Failure UnitResult}
    (h : d.executeBatch s (.list (sets.map .list)) activity = (outcome, after)) :
    ∃ k, SentFirst d c sets (activity.sent c.serial) k outcome ∧
      after.events = activity.events ++ d.exchange s.sql (sets.take k) [] := by
  have hcount : (Value.list (sets.map .list)).count = .ok (sets.map Value.list).length := rfl
  have hitems : (Value.list (sets.map .list)).toItems = .ok (sets.map Value.list) := rfl
  rw [executeBatch, Act.bind_run_ok (Act.note_run _ _ _ _), hcount,
    Act.bind_run_ok (Act.ofExcept_run _ _), Act.bind_run_ok (Act.note_run _ _ _ _),
    Act.bind_run_ok (connected_run hconnection _),
    Act.bind_run_ok (Connection.openCursor_run hcursor _), hitems] at h
  dsimp only at h
  -- the notes written before the cursor was opened do not matter from here on
  generalize hopened : ({ activity with
      journal := _, events := activity.events ++ [.openCursor] } : Activity) = opened at h
  have hsend := Act.bind_run_ok (f := d.sendBatch c s)
    (Act.ofExcept_run (.ok (sets.map Value.list)) opened)
  rcases hsent : d.sendBatch c s (sets.map .list) opened with ⟨sent, between⟩
  obtain ⟨k, hfirst, hevents⟩ := exists_sentFirst_of_sendBatch hsent
  have hclosed := Connection.ensuring_closeCursor_run
    (Act.ofExcept (.ok (sets.map Value.list)) >>= d.sendBatch c s) opened
  rw [hsend, hsent] at hclosed
  have hexchange : between.events ++ [.closeCursor] =
      activity.events ++ d.exchange s.sql (sets.take k) [] := by
    rw [hevents, ← hopened]
    simp [exchange]
  rw [← hopened] at hfirst
  refine ⟨k, ?_⟩
  rcases sent with failure | counts
  · rw [Act.bind_run_error hclosed] at h
    cases h
    exact ⟨hfirst.map fun _ => ({} : UnitResult), hexchange⟩
  · rw [Act.bind_run_ok hclosed, Act.bind_run_ok (Act.note_run _ _ _ _)] at h
    cases h
    have hreported := hfirst.map fun counts : List Int =>
      ({ rowsAffected := counts.foldl (· + ·) 0, perRow := counts } : UnitResult)
    exact ⟨hreported, hexchange⟩

end Batch

/-- The operations on a driver that has a cursor to give.  The text that is sent was fixed by the
template, the style of markers, and the requested keys (on an embedded engine of some version);
values do not come into it. -/
theorem driver_exchange {d : Database} {c : Connection} (hconnection : d.connection = some c)
    (hcursor : c.cursorFailure = none) {t : Template} {keys : KeyRequest} {columns : List Value}
    {before prepared : Activity} {s : Statement}
    (hprepare : d.unit.prepare t keys columns before = (.ok s, prepared)) :
    (d.dialect.statementText before.surroundings.sqliteVersion d.style t keys columns = .ok s.sql ∧
      s.returning = d.dialect.returnsKeys before.surroundings.sqliteVersion keys columns) ∧
    (∀ values activity outcome after,
      d.unit.executeSingle { s with parameters := values } activity = (outcome, after) →
        ExecutedOnce d c { s with parameters := values } activity outcome after) ∧
    (∀ sets activity outcome after,
      d.unit.executeBatch s (.list (sets.map .list)) activity = (outcome, after) →
        ∃ k, SentFirst d c sets (activity.sent c.serial) k outcome ∧
          after.events = activity.events ++ d.exchange s.sql (sets.take k) []) :=
  ⟨prepare_ok hprepare,
    fun _ _ _ _ hexecute => executedOnce_of_executeSingle hconnection hcursor hexecute,
    fun _ _ _ _ hexecute => exists_sentFirst_of_executeBatch hconnection hcursor hexecute⟩

/-- The second of three statements fails: the third one is not sent, and the cursor is closed. -/
theorem driver_exchange_second_fails :
    let c : Connection := { script := [{}, { failure := some (.raised .runtime "gone") }] }
    let d : Database := { dialect := .sqlite, connection := some c }
    let t : Template := { source := "SET a = ?1", segments :=
      [.literal "SET a = ", .placeholder { index := 1 }] }
    let sets : List (List Value) := [[.int 1], [.int 2], [.int 3]]
    ∃ s prepared, d.unit.prepare t .none [] {} = (.ok s, prepared) ∧
      (d.unit.executeBatch s (.list (sets.map .list)) {}).2.events =
        d.exchange s.sql [[.int 1], [.int 2]] [] := by
  intro c d t sets
  obtain ⟨s, prepared, hprepare⟩ :
    ∃ s prepared, d.unit.prepare t .none [] {} = (.ok s, prepared) := ⟨_, _, rfl⟩
  obtain ⟨-, -, hbatch⟩ := driver_exchange (c := c) rfl rfl hprepare
  rcases hexecute : d.unit.executeBatch s (.list (sets.map .list)) {} with ⟨outcome, after⟩
  obtain ⟨k, -, hevents⟩ := hbatch sets {} outcome after hexecute
  have hcount : (d.unit.executeBatch s (.list (sets.map .list)) {}).2.events.length = 4 := by
    cases hprepare
    decide +kernel
  rw [hexecute, hevents] at hcount
  -- two more operations open and close the cursor
  have hsent : k = 2 := by
    simp [Database.exchange, sets] at hcount
    omega
  refine ⟨s, prepared, hprepare, ?_⟩
  rw [hexecute, hevents, hsent]
  rfl

end Database
end BoundUpdate
