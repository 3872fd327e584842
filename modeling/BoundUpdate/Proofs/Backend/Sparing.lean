import BoundUpdate.Backend.Client
import BoundUpdate.Proofs.Backend.Exchange
import BoundUpdate.Proofs.Invocation.Binding
import BoundUpdate.Proofs.Invocation.UnitProtocol

namespace BoundUpdate

/-!
# Units that leave connections open

A connection is closed by whoever opened it, never by a unit: no operation of a
unit that was built from a client closes one, and neither does building the unit
or consulting the settings.  So no call of an update does.
-/

/-- An operation closes a connection. -/
def Event.isClosing : Event → Bool
  | .closeConnection => true
  | _ => false

/-- An activity closes no connection. -/
abbrev Act.Spares {α : Type} (x : Act α) : Prop := x.AddsOnly fun e => e.isClosing = false

open Act

theorem spares_observe {event : Event} (h : event.isClosing = false) : (observe event).Spares :=
  addsOnly_observe h

theorem Settings.keepsEvents_current : Settings.current.KeepsEvents := by
  unfold Settings.current
  refine keepsEvents_get.bind fun activity => ?_
  cases activity.replacement with
  | some held => exact keepsEvents_pure held
  | none =>
    unfold Settings.loaded
    refine keepsEvents_get.bind fun activity => ?_
    dsimp only
    split
    · rename_i held _
      exact (keepsEvents_modify fun _ => rfl).bind fun _ => keepsEvents_pure held
    · refine (keepsEvents_ofExcept _).bind fun settings => ?_
      refine KeepsEvents.bind (keepsEvents_freshSerial.map _) fun held => ?_
      exact (keepsEvents_modify fun _ => rfl).bind fun _ => keepsEvents_pure held

namespace Client

theorem keepsEvents_askStyle (driver : Value) (known : MarkerStyle) :
    (askStyle driver known).KeepsEvents := by
  unfold askStyle
  refine keepsEvents_surroundings.bind fun s => ?_
  split
  · exact (keepsEvents_note _ _ _).bind fun _ => keepsEvents_pure known
  · refine (keepsEvents_note _ _ _).bind fun _ => ?_
    split
    · exact keepsEvents_pure _
    · exact (keepsEvents_note _ _ _).bind fun _ => keepsEvents_pure known

theorem keepsEvents_markerStyle (c : Client) (dialect : Dialect) :
    (c.markerStyle dialect).KeepsEvents := by
  unfold markerStyle
  dsimp only
  split
  · refine (keepsEvents_ofExcept _).bind fun known => ?_
    split
    · exact (keepsEvents_ofExcept _).bind fun driver => keepsEvents_askStyle driver _
    · exact keepsEvents_pure _
  · exact keepsEvents_pure _

theorem keepsEvents_database (c : Client) : c.database.KeepsEvents := by
  unfold database
  refine (keepsEvents_ofExcept _).bind fun dialect => ?_
  split
  · exact Settings.keepsEvents_current.bind fun held =>
      (c.keepsEvents_markerStyle dialect).map _
  · exact (keepsEvents_throw _).bind fun _ => Settings.keepsEvents_current.bind fun held =>
      (c.keepsEvents_markerStyle dialect).map _

theorem keepsEvents_unit (c : Client) : c.unit.KeepsEvents := c.keepsEvents_database.map _

end Client

namespace ExecutionUnit

/-- No operation of a unit closes a connection. -/
structure IsSparing (u : ExecutionUnit) : Prop where
  prepare : ∀ t keys columns, (u.prepare t keys columns).Spares
  bind : ∀ s position v, (u.bind s position v).Spares
  executeSingle : ∀ s, (u.executeSingle s).Spares
  executeBatch : ∀ s sets, (u.executeBatch s sets).Spares

end ExecutionUnit

namespace Connection

theorem keepsEvents_failWith (failure : Option Failure) : (failWith failure).KeepsEvents := by
  cases failure with
  | some failure => exact keepsEvents_throw failure
  | none => exact keepsEvents_pure ()

theorem close_run (c : Connection) (activity : Activity) :
    c.close activity =
      (match c.closeFailure with
        | some failure => .error failure
        | none => .ok (),
        { activity with events := activity.events ++ [.closeConnection] }) := by
  rw [close, bind_run_ok (observe_run _ _)]
  cases c.closeFailure <;> rfl

theorem spares_openCursor (c : Connection) : c.openCursor.Spares :=
  (spares_observe rfl).bind fun _ => (keepsEvents_failWith _).addsOnly

theorem spares_send (c : Connection) (sql : String) (parameters : Value) :
    (c.send sql parameters).Spares := by
  refine (spares_observe rfl).bind fun _ => ?_
  have hnumber : c.nextNumber.KeepsEvents := fun _ => rfl
  exact (hnumber.bind fun n => (keepsEvents_failWith _).map _).addsOnly

theorem spares_fetch (r : Reply) : (fetch r).Spares :=
  (spares_observe rfl).bind fun _ => ((keepsEvents_failWith _).map _).addsOnly

end Connection

namespace Database

variable (d : Database)

theorem spares_prepare (t : Template) (keys : KeyRequest) (columns : List Value) :
    (d.prepare t keys columns).Spares := by
  intro activity
  obtain ⟨journal, hrun⟩ := d.prepare_run t keys columns activity
  exact ⟨[], by rw [hrun]; exact (List.append_nil _).symm, fun _ he => nomatch he⟩

theorem keepsEvents_noteValues (values : Value) : (d.noteValues values).KeepsEvents := by
  intro activity
  obtain ⟨journal, hrun⟩ := d.noteValues_run values activity
  rw [hrun]

theorem keepsEvents_connected : d.connected.KeepsEvents := by
  unfold connected
  split
  · exact keepsEvents_pure _
  · exact keepsEvents_throw _

theorem spares_fetchKeys (s : Statement) (r : Reply) : (d.fetchKeys s r).Spares := by
  unfold fetchKeys
  split
  · exact (keepsEvents_firstKeys s r).addsOnly
  · split
    · split
      · exact (keepsEvents_pure _).addsOnly
      · exact (Connection.spares_fetch r).bind fun rows => (keepsEvents_ofExcept _).addsOnly
    · exact (keepsEvents_pure _).addsOnly

theorem spares_sendSingle (c : Connection) (s : Statement) : (d.sendSingle c s).Spares := by
  refine (c.spares_send _ _).bind fun r => ?_
  dsimp only
  split
  · exact (d.spares_fetchKeys s r).bind fun keys => (keepsEvents_pure _).addsOnly
  · exact (keepsEvents_pure _).addsOnly

theorem spares_executeSingle (s : Statement) : (d.executeSingle s).Spares := by
  refine (keepsEvents_note _ _ _).addsOnly.bind fun _ => ?_
  refine (d.keepsEvents_noteValues _).addsOnly.bind fun _ => ?_
  refine d.keepsEvents_connected.addsOnly.bind fun c => ?_
  refine c.spares_openCursor.bind fun _ => ?_
  refine ((d.spares_sendSingle c s).ensuring (spares_observe rfl)).bind fun sent => ?_
  exact ((keepsEvents_note _ _ _).map _).addsOnly

theorem spares_sendBatch (c : Connection) (s : Statement) (sets : List Value) :
    (d.sendBatch c s sets).Spares := by
  induction sets with
  | nil => exact (keepsEvents_pure _).addsOnly
  | cons values rest ih =>
    refine (d.keepsEvents_noteValues values).addsOnly.bind fun _ => ?_
    refine (keepsEvents_ofExcept _).addsOnly.bind fun parameters => ?_
    exact (c.spares_send _ _).bind fun r => ih.bind fun others => (keepsEvents_pure _).addsOnly

theorem spares_executeBatch (s : Statement) (sets : Value) : (d.executeBatch s sets).Spares := by
  refine (keepsEvents_note _ _ _).addsOnly.bind fun _ => ?_
  refine (keepsEvents_ofExcept _).addsOnly.bind fun count => ?_
  refine (keepsEvents_note _ _ _).addsOnly.bind fun _ => ?_
  refine d.keepsEvents_connected.addsOnly.bind fun c => ?_
  refine c.spares_openCursor.bind fun _ => ?_
  refine AddsOnly.bind (AddsOnly.ensuring ?_ (spares_observe rfl)) fun counts =>
    ((keepsEvents_note _ _ _).map _).addsOnly
  exact (keepsEvents_ofExcept _).addsOnly.bind fun items => d.spares_sendBatch c s items

theorem isSparing_unit : d.unit.IsSparing where
  prepare := d.spares_prepare
  bind _ _ _ := (keepsEvents_ofExcept _).addsOnly
  executeSingle := d.spares_executeSingle
  executeBatch := d.spares_executeBatch

end Database

/-- A unit that a client builds closes no connection. -/
theorem Client.isSparing_of_unit {c : Client} {u : ExecutionUnit} {activity after : Activity}
    (h : c.unit activity = (.ok u, after)) : u.IsSparing := by
  obtain ⟨d, _, -, h⟩ := exists_of_bind_run_ok h
  cases h
  exact d.isSparing_unit

namespace Invocation

variable {u : ExecutionUnit}

theorem spares_bindParameters (hu : u.IsSparing) (s : Statement) (position : Nat)
    (values : List Value) : (bindParameters u s position values).Spares := by
  induction values generalizing s position with
  | nil => exact (keepsEvents_pure _).addsOnly
  | cons v rest ih => exact (hu.bind s _ v).bind fun t => ih t (position + 1)

theorem spares_perform (hu : u.IsSparing) (spec : Spec) (c : Invocation) :
    (perform spec u c).Spares := by
  unfold perform
  split
  · split
    · exact ((keepsEvents_note _ _ _).map _).addsOnly
    · exact (hu.prepare _ _ _).bind fun s => hu.executeBatch s _
  · refine (hu.prepare _ _ _).bind fun s => ?_
    split
    · exact (keepsEvents_throw _).addsOnly
    · exact (spares_bindParameters hu s 1 _).bind fun t => hu.executeSingle t

theorem keepsEvents_extract (outcome : Outcome) (shape : ReturnShape) (keys : KeyRequest) :
    (outcome.extract shape keys).KeepsEvents := by
  unfold Outcome.extract
  split
  case h_6 found _ =>
    cases found with
    | nil => exact (keepsEvents_note _ _ _).map _
    | cons row rest => exact keepsEvents_ofExcept _
  all_goals
    first
    | exact keepsEvents_pure _
    | exact keepsEvents_ofExcept _

/-- A call of an update closes no connection if its unit closes none. -/
theorem spares_call (hu : u.IsSparing) (spec : Spec) (convention : AccessorConvention)
    (arguments : List Value) : (call spec convention u arguments).Spares := by
  refine AddsOnly.bind ?_ fun outcome => (keepsEvents_extract outcome _ _).addsOnly
  refine (keepsEvents_bind spec convention arguments).addsOnly.bind fun c => ?_
  refine AddsOnly.bind ?_ fun done => (keepsEvents_ofExcept _).addsOnly
  unfold execute
  split
  · refine (spares_perform hu spec c).attempt.bind fun reported => ?_
    split
    · exact (keepsEvents_pure _).addsOnly
    · exact ((keepsEvents_escalate spec _).map _).addsOnly
  · exact (keepsEvents_pure _).addsOnly

end Invocation
end BoundUpdate
