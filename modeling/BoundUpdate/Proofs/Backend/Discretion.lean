import BoundUpdate.Backend.Client
import BoundUpdate.Proofs.Activity.Parallel

namespace BoundUpdate

/-!
# Units that keep bound values to themselves

A unit is discreet when what it writes down, and how its operations end, does
not depend on the values that are bound: two statements that differ in their
parameters only are treated in parallel, and so are batches with equally many
rows.  Databases are discreet unless they were made to note bound values.
-/

/-- Two statements differ in their parameters only. -/
def Statement.SameFrame (s t : Statement) : Prop := ∃ parameters, t = { s with parameters }

namespace ExecutionUnit

/-- Two runs of an operation that differ in bound values are parallel. -/
structure IsDiscreet (u : ExecutionUnit) : Prop where
  prepare : ∀ t keys columns,
    (u.prepare t keys columns).Parallel Statement.SameFrame (u.prepare t keys columns)
  bind : ∀ {s t : Statement}, s.SameFrame t → ∀ (n : Int) (v w : Value),
    (u.bind s (.int n) v).Parallel Statement.SameFrame (u.bind t (.int n) w)
  executeSingle : ∀ {s t : Statement}, s.SameFrame t →
    (u.executeSingle s).Parallel Eq (u.executeSingle t)
  executeBatch : ∀ {s t : Statement}, s.SameFrame t → ∀ {sets sets' : List (List Value)},
    sets.length = sets'.length →
    (u.executeBatch s (.list (sets.map .list))).Parallel Eq
      (u.executeBatch t (.list (sets'.map .list)))

end ExecutionUnit

open Act

namespace Connection

theorem parallel_failWith (failure : Option Failure) :
    (failWith failure).Parallel Eq (failWith failure) := by
  cases failure with
  | some failure => exact parallel_throw failure
  | none => exact parallel_pure rfl

theorem parallel_openCursor (c : Connection) : c.openCursor.Parallel Eq c.openCursor :=
  (parallel_observe _ _).bind_eq fun _ => parallel_failWith c.cursorFailure

theorem parallel_nextNumber (c : Connection) : c.nextNumber.Parallel Eq c.nextNumber := by
  intro activity activity' hsame
  refine ⟨[], (List.append_nil _).symm, (List.append_nil _).symm, ⟨?_, hsame.surroundings⟩, ?_⟩
  · simp only [nextNumber, hsame.sent]
  · simp only [nextNumber, hsame.sent]
    exact .ok rfl

/-- What a connection answers depends on the number of the statement only. -/
theorem parallel_send (c : Connection) (sql : String) (parameters parameters' : Value) :
    (c.send sql parameters).Parallel Eq (c.send sql parameters') := by
  refine (parallel_observe _ _).bind_eq fun _ => ?_
  refine c.parallel_nextNumber.bind_eq fun n => ?_
  exact (parallel_failWith _).bind_eq fun _ => parallel_pure rfl

theorem parallel_fetch (r : Reply) : (fetch r).Parallel Eq (fetch r) :=
  (parallel_observe _ _).bind_eq fun _ =>
    (parallel_failWith r.fetchFailure).bind_eq fun _ => parallel_pure rfl

end Connection

namespace Database

/-- A database does not note bound values. -/
def KeepsValues (d : Database) : Prop := d.logsBoundValues.truth = .ok false

section Operations

variable {d : Database}

theorem noteValues_of_keepsValues (h : d.KeepsValues) (values : Value) :
    d.noteValues values = pure () := by
  have htruth : d.logsBoundValues.truth = .ok false := h
  rw [noteValues, htruth]
  rfl

theorem parallel_usesReturning (d : Database) (keys : KeyRequest) (columns : List Value) :
    (d.usesReturning keys columns).Parallel Eq (d.usesReturning keys columns) := by
  unfold usesReturning
  cases d.dialect with
  | postgres => exact parallel_pure rfl
  | mysql => exact parallel_pure rfl
  | generic => exact parallel_pure rfl
  | sqlite =>
    dsimp only
    split
    · exact parallel_pure rfl
    · refine parallel_surroundings.bind_eq fun surroundings => ?_
      split
      · exact (parallel_note _ _ _).bind_eq fun _ => parallel_pure rfl
      · exact parallel_pure rfl

theorem parallel_prepare (d : Database) (t : Template) (keys : KeyRequest) (columns : List Value) :
    (d.prepare t keys columns).Parallel Statement.SameFrame (d.prepare t keys columns) := by
  have hnoted : ∀ (sql : String) (s : Statement),
      (Act.note .debug .unit ("Prepared SQL: " ++ sql) >>= fun _ => pure s).Parallel
        Statement.SameFrame (Act.note .debug .unit ("Prepared SQL: " ++ sql) >>= fun _ => pure s) :=
    fun sql s => (parallel_note _ _ _).bind_eq fun _ => parallel_pure ⟨s.parameters, rfl⟩
  refine (parallel_ofExcept (endAlike_refl _)).bind_eq fun sql => ?_
  dsimp only
  split
  · refine (d.parallel_usesReturning keys columns).bind_eq fun returning => ?_
    split
    · exact (parallel_ofExcept (endAlike_refl _)).bind_eq fun sql => hnoted sql _
    · exact hnoted sql _
  · exact hnoted sql _

theorem parallel_firstKeys (s : Statement) (r : Reply) :
    (firstKeys s r).Parallel Eq (firstKeys s r) := by
  unfold firstKeys
  dsimp only
  split
  -- the note about columns apart, the same keys are collected
  on_goal 2 =>
    refine (parallel_ofExcept (endAlike_refl _)).bind_eq fun columns => ?_
    refine (parallel_note _ _ _).bind_eq fun _ => ?_
  all_goals
    split
    · exact parallel_throw _
    · refine (parallel_ofExcept (endAlike_refl _)).bind_eq fun known => ?_
      split
      · split
        · exact parallel_ofExcept (endAlike_refl _)
        · exact parallel_throw _
      · exact parallel_pure rfl

theorem parallel_fetchKeys (d : Database) (s : Statement) (r : Reply) :
    (d.fetchKeys s r).Parallel Eq (d.fetchKeys s r) := by
  unfold fetchKeys
  split
  · exact parallel_firstKeys s r
  · split
    · cases r.rows with
      | none => exact parallel_pure rfl
      | some rows =>
        refine (Connection.parallel_fetch r).bind_eq fun rows => ?_
        exact parallel_ofExcept (endAlike_refl _)
    · exact parallel_pure rfl

theorem parallel_connected (d : Database) : d.connected.Parallel Eq d.connected := by
  unfold connected
  cases d.connection with
  | some c => exact parallel_pure rfl
  | none => exact parallel_throw _

/-- Only what is sent differs. -/
theorem parallel_sendSingle (d : Database) (c : Connection) {s t : Statement}
    (h : s.SameFrame t) : (d.sendSingle c s).Parallel Eq (d.sendSingle c t) := by
  obtain ⟨parameters, rfl⟩ := h
  refine (c.parallel_send _ _ _).bind_eq fun r => ?_
  have hwants : ({ s with parameters } : Statement).wantsKeys = s.wantsKeys := rfl
  have hkeys : d.fetchKeys { s with parameters } r = d.fetchKeys s r := rfl
  rw [hwants, hkeys]
  dsimp only
  split
  · exact (d.parallel_fetchKeys s r).bind_eq fun keys => parallel_pure rfl
  · exact parallel_pure rfl

theorem parallel_executeSingle (hd : d.KeepsValues) {s t : Statement} (h : s.SameFrame t) :
    (d.executeSingle s).Parallel Eq (d.executeSingle t) := by
  have hsend := fun c => d.parallel_sendSingle c h
  obtain ⟨parameters, rfl⟩ := h
  unfold executeSingle
  rw [noteValues_of_keepsValues hd, noteValues_of_keepsValues hd]
  refine (parallel_note _ _ _).bind_eq fun _ => ?_
  refine (parallel_pure rfl).bind_eq fun _ => ?_
  refine d.parallel_connected.bind_eq fun c => ?_
  refine c.parallel_openCursor.bind_eq fun _ => ?_
  refine ((hsend c).ensuring (parallel_observe _ _)).bind_eq fun sent => ?_
  exact (parallel_note _ _ _).bind_eq fun _ => parallel_pure rfl

/-- As many lists of values are sent on both sides, up to the same failure. -/
theorem parallel_sendBatch (hd : d.KeepsValues) (c : Connection) {s t : Statement}
    (h : s.SameFrame t) {sets sets' : List (List Value)} (hlength : sets.length = sets'.length) :
    (d.sendBatch c s (sets.map .list)).Parallel Eq (d.sendBatch c t (sets'.map .list)) := by
  obtain ⟨parameters, rfl⟩ := h
  induction sets generalizing sets' with
  | nil =>
    obtain rfl : sets' = [] := List.length_eq_zero_iff.1 hlength.symm
    exact parallel_pure rfl
  | cons values rest ih =>
    cases sets' with
    | nil => cases hlength
    | cons values' rest' =>
      rw [List.map_cons, List.map_cons, sendBatch, sendBatch, noteValues_of_keepsValues hd,
        noteValues_of_keepsValues hd]
      refine (parallel_pure rfl).bind_eq fun _ => ?_
      refine (c.parallel_send _ _ _).bind_eq fun r => ?_
      exact (ih (Nat.succ.inj hlength)).bind_eq fun others => parallel_pure rfl

theorem parallel_executeBatch (hd : d.KeepsValues) {s t : Statement} (h : s.SameFrame t)
    {sets sets' : List (List Value)} (hlength : sets.length = sets'.length) :
    (d.executeBatch s (.list (sets.map .list))).Parallel Eq
      (d.executeBatch t (.list (sets'.map .list))) := by
  have hsend := fun c => parallel_sendBatch hd c h hlength
  -- the journal tells how many lists there are, which is the same on both sides
  have hcount : (Value.list (sets.map .list)).count = .ok sets'.length :=
    congrArg Except.ok ((List.length_map _).trans hlength)
  have hcount' : (Value.list (sets'.map .list)).count = .ok sets'.length :=
    congrArg Except.ok (List.length_map _)
  obtain ⟨parameters, rfl⟩ := h
  unfold executeBatch
  rw [hcount, hcount']
  refine (parallel_note _ _ _).bind_eq fun _ => ?_
  refine (parallel_ofExcept (endAlike_refl _)).bind_eq fun count => ?_
  refine (parallel_note _ _ _).bind_eq fun _ => ?_
  refine d.parallel_connected.bind_eq fun c => ?_
  refine c.parallel_openCursor.bind_eq fun _ => ?_
  refine ((hsend c).ensuring (parallel_observe _ _)).bind_eq fun counts => ?_
  exact (parallel_note _ _ _).bind_eq fun _ => parallel_pure rfl

end Operations

/-- Binding at a position is refused by the number of slots only. -/
theorem endAlike_bindAt {s t : Statement} (h : s.SameFrame t) (n : Int) (v w : Value) :
    EndAlike Statement.SameFrame (s.bindAt (.int n) v) (t.bindAt (.int n) w) := by
  obtain ⟨parameters, rfl⟩ := h
  rw [Statement.bindAt_int, Statement.bindAt_int]
  have hslots : ({ s with parameters } : Statement).slots = s.slots := rfl
  rw [hslots]
  split
  · exact .error
  · exact .ok ⟨_, rfl⟩

theorem isDiscreet_unit {d : Database} (h : d.KeepsValues) : d.unit.IsDiscreet where
  prepare := d.parallel_prepare
  bind := fun hframe n v w => parallel_ofExcept (endAlike_bindAt hframe n v w)
  executeSingle := parallel_executeSingle h
  executeBatch := fun hframe _ _ hlength => parallel_executeBatch h hframe hlength

/-- Whether a database notes bound values was settled by the settings in force when it was made. -/
theorem logsBoundValues_of_database {client : Client} {d : Database} {opened built : Activity}
    (h : client.database opened = (.ok d, built)) :
    ∃ held loaded, Settings.current opened = (.ok held, loaded) ∧
      d.logsBoundValues = held.settings.logsBoundValues := by
  unfold Client.database at h
  obtain ⟨dialect, between, hdialect, h⟩ := Act.exists_of_bind_run_ok h
  -- the dialect is told without leaving a trace
  obtain ⟨-, rfl⟩ := Prod.mk.inj hdialect
  dsimp only at h
  split at h
  · obtain ⟨held, loaded, hcurrent, h⟩ := Act.exists_of_bind_run_ok h
    obtain ⟨style, styled, -, h⟩ := Act.exists_of_bind_run_ok h
    cases h
    exact ⟨held, loaded, hcurrent, rfl⟩
  · cases h

end Database
end BoundUpdate
