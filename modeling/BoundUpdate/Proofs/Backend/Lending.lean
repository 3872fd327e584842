import BoundUpdate.Backend.Connector
import BoundUpdate.Proofs.Backend.Sparing

namespace BoundUpdate

/-!
# Lending a connection

Work with a client of a new connection owns the connection from the moment in
which the driver opened it, before it is made ready.  From then on the connection
is closed exactly once: behind the work, or at once when it could not be made
ready.  What the driver did not open is not closed.  Unless closing is
interrupted, the failure of the work or of making ready leaves as it is.
-/

open Act

namespace Connector

variable {c : Connector} {activity : Activity}

theorem keepsEvents_make (e : DatabaseEntry) (opens : Connection) :
    (make e opens).KeepsEvents := by
  refine (keepsEvents_ofExcept _).bind fun type => ?_
  refine (keepsEvents_ofExcept _).bind fun options => ?_
  refine (keepsEvents_ofExcept _).bind fun autocommit => ?_
  refine Settings.keepsEvents_current.bind fun held => ?_
  exact (keepsEvents_ofExcept _).map _

/-- A new connector is for the given entry, opens the given connection and holds none. -/
theorem of_make {e : DatabaseEntry} {opens : Connection} {after : Activity}
    (h : make e opens activity = (.ok c, after)) :
    c.entry = e ∧ c.opens = opens ∧ c.held = none := by
  obtain ⟨type, _, -, h⟩ := exists_of_bind_run_ok h
  obtain ⟨options, _, -, h⟩ := exists_of_bind_run_ok h
  obtain ⟨autocommit, _, -, h⟩ := exists_of_bind_run_ok h
  obtain ⟨held, _, -, h⟩ := exists_of_bind_run_ok h
  obtain ⟨type, _, -, h⟩ := exists_of_bind_run_ok h
  cases h
  exact ⟨rfl, rfl, rfl⟩

/-! ## Opening -/

/-- A connection behaves like another one. -/
def Renews (opens connection : Connection) : Prop := ∃ serial, connection = { opens with serial }

/-- Opening a connection with a driver: the driver is not asked for one, it refuses, or it opens
one. -/
inductive Opening (c : Connector) (before after : Activity) : Except Failure Connection → Prop
  | unasked {failure : Failure} :
      after.events = before.events → Opening c before after (.error failure)
  | refused {driver : String} {positional : List Value} {named : List (String × Value)}
      {failure : Failure} :
      after.events = before.events ++ [.connect driver positional named] →
      c.opens.connectFailure = some failure → Opening c before after (.error failure)
  | opened {driver : String} {positional : List Value} {named : List (String × Value)}
      {connection : Connection} :
      after.events = before.events ++ [.connect driver positional named] →
      c.opens.connectFailure = none → Renews c.opens connection →
      Opening c before after (.ok connection)

/-- An activity opens a connection with a driver, as far as it goes. -/
def Opens (c : Connector) (x : Act Connection) : Prop :=
  ∀ before, c.Opening before (x before).2 (x before).1

theorem opens_opened (c : Connector) (driver : String) (positional : List Value)
    (named : List (String × Value)) : c.Opens (c.opened driver positional named) := by
  intro before
  rw [opened, bind_run_ok (observe_run _ _)]
  cases hfailure : c.opens.connectFailure with
  | some failure => exact .refused rfl hfailure
  | none => exact .opened rfl hfailure ⟨_, rfl⟩

/-- What is looked up before the driver is asked makes nothing observable. -/
theorem opens_bind {α : Type} (x : Except Failure α) {f : α → Act Connection}
    (h : ∀ a, c.Opens (f a)) : c.Opens (Act.ofExcept x >>= f) := by
  cases x with
  | error failure => exact fun _ => .unasked rfl
  | ok a => exact h a

theorem opens_openWith (c : Connector) (driver : String) : c.Opens (c.openWith driver) := by
  have htext : c.Opens (c.openText driver) := by
    refine opens_bind _ fun told => ?_
    split
    · exact c.opens_opened _ _ _
    · exact opens_bind _ fun text => c.opens_opened _ _ _
  unfold openWith
  cases Dialect.ofType (c.type.text?.getD "") with
  | sqlite => exact opens_bind _ fun database => c.opens_opened _ _ _
  | mysql => exact opens_bind _ fun port => c.opens_opened _ _ _
  | postgres => exact htext
  | generic => exact htext

/-! ## Making ready -/

/-- Making a connection ready sets the autocommit mode at most. -/
def SetsUp (setup : List Event) : Prop := setup = [] ∨ ∃ on, setup = [.setAutocommit on]

/-- An activity makes a connection ready, as far as it goes. -/
def Readies (x : Act Unit) : Prop :=
  ∀ before, ∃ setup, SetsUp setup ∧ (x before).2.events = before.events ++ setup

theorem readies_of_keepsEvents {x : Act Unit} (h : x.KeepsEvents) : Readies x :=
  fun before => ⟨[], .inl rfl, by rw [h before, List.append_nil]⟩

theorem readies_greet (c : Connector) (connection : Connection) : Readies (c.greet connection) := by
  have hthread : connection.threadNumber.KeepsEvents := (Connection.keepsEvents_failWith _).map _
  have hstatus : connection.status.KeepsEvents := (Connection.keepsEvents_failWith _).map _
  -- the autocommit mode is set first, and nothing after that is observable
  have hmode : ∀ {f : Unit → Act Unit}, (∀ x, (f x).KeepsEvents) →
      Readies (connection.setAutocommit c.autocommit >>= f) := by
    intro f hf before
    refine ⟨[.setAutocommit c.autocommit], .inr ⟨_, rfl⟩, ?_⟩
    rw [Connection.setAutocommit, bind_assoc, bind_run_ok (observe_run _ _)]
    exact (Connection.keepsEvents_failWith _).bind hf _
  unfold greet
  cases Dialect.ofType (c.type.text?.getD "") with
  | sqlite => exact readies_of_keepsEvents (keepsEvents_note _ _ _)
  | mysql => exact readies_of_keepsEvents (hthread.bind fun n => keepsEvents_note _ _ _)
  | postgres => exact hmode fun _ => hstatus.bind fun n => keepsEvents_note _ _ _
  | generic => exact hmode fun _ => hstatus.bind fun n => keepsEvents_note _ _ _

/-! ## Connecting with a driver -/

/-- The failure that is left of a failure on the way to a connection. -/
def reported (c : Connector) (failure : Failure) : Failure :=
  if failure.isOrdinary then
    .connection (.failed failure.toCause ("Failed to connect to " ++ c.description))
  else failure

theorem exists_escalate (c : Connector) (failure : Failure) (activity : Activity) :
    ∃ after, c.escalate failure activity = (.ok (c.reported failure), after) ∧
      after.events = activity.events := by
  unfold escalate reported
  split
  · exact ⟨_, rfl, rfl⟩
  · exact ⟨_, rfl, rfl⟩

/-- Connecting with a driver: no connection is opened, or one is, which is held from then on and is
made ready or not. -/
inductive Tried (c : Connector) (driver : String) (before after : Activity) :
    Connector → Except Failure Connection → Prop
  | unopened {failure : Failure} {opened : Activity} :
      c.openWith driver before = (.error failure, opened) → after.events = opened.events →
      Tried c driver before after c (.error (c.reported failure))
  | unready {connection : Connection} {failure : Failure} {opened greeted : Activity}
      {holding : Connector} : holding = { c with held := some connection } →
      c.openWith driver before = (.ok connection, opened) →
      holding.greet connection opened = (.error failure, greeted) →
      after.events = greeted.events →
      Tried c driver before after holding (.error (holding.reported failure))
  | ready {connection : Connection} {opened : Activity} {holding : Connector} :
      holding = { c with held := some connection } →
      c.openWith driver before = (.ok connection, opened) →
      holding.greet connection opened = (.ok (), after) →
      Tried c driver before after holding (.ok connection)

theorem exists_tried (c : Connector) (driver : String) (before : Activity) :
    ∃ c' outcome after, c.connectWith driver before = (.ok (c', outcome), after) ∧
      Tried c driver before after c' outcome := by
  unfold connectWith
  rw [bind_run_ok (attempt_run _ _)]
  rcases hopen : c.openWith driver before with ⟨failure | connection, opened⟩
  · obtain ⟨after, hescalate, hevents⟩ := c.exists_escalate failure opened
    refine ⟨c, _, after, ?_, .unopened hopen hevents⟩
    dsimp only
    rw [bind_run_ok hescalate]
    rfl
  · let holding : Connector := { c with held := some connection }
    dsimp only
    rw [bind_run_ok (attempt_run _ _)]
    rcases hgreet : holding.greet connection opened with ⟨failure | ⟨⟩, greeted⟩
    · obtain ⟨after, hescalate, hevents⟩ := holding.exists_escalate failure greeted
      refine ⟨holding, _, after, ?_, .unready rfl hopen hgreet hevents⟩
      dsimp only
      rw [bind_run_ok hescalate]
      rfl
    · exact ⟨holding, _, greeted, rfl, .ready rfl hopen hgreet⟩

/-- The driver opened no connection: it was not asked, or it refused. -/
def Refused (opens : Connection) (before after : Activity) : Prop :=
  after.events = before.events ∨ opens.connectFailure.isSome ∧
    ∃ driver positional named, after.events = before.events ++ [.connect driver positional named]

/-- The driver opened a connection, and nothing became observable behind that but setting it up. -/
def Acquired (opens connection : Connection) (before after : Activity) : Prop :=
  opens.connectFailure = none ∧ Renews opens connection ∧
    ∃ driver positional named setup, SetsUp setup ∧
      after.events = before.events ++ .connect driver positional named :: setup

/-- Connecting: the driver opens no connection, or it opens one, which is held from then on and is
made ready or not. -/
inductive Connecting (c : Connector) (before after : Activity) :
    Connector → Except Failure Connection → Prop
  | unopened {failure : Failure} : Refused c.opens before after →
      Connecting c before after c (.error failure)
  | unready {connection : Connection} {failure : Failure} :
      Acquired c.opens connection before after →
      Connecting c before after { c with held := some connection } (.error failure)
  | ready {connection : Connection} : Acquired c.opens connection before after →
      Connecting c before after { c with held := some connection } (.ok connection)

theorem exists_connecting_of_driver (c : Connector) (driver : String) (before : Activity) :
    ∃ c' outcome after, c.connectWith driver before = (.ok (c', outcome), after) ∧
      Connecting c before after c' outcome := by
  obtain ⟨c', outcome, after, hconnect, htried⟩ := c.exists_tried driver before
  refine ⟨c', outcome, after, hconnect, ?_⟩
  have hopening := c.opens_openWith driver before
  -- what makes a connection ready follows what opened it
  have hacquired : ∀ {connection : Connection} {opened : Activity} {setup : List Event},
      c.openWith driver before = (.ok connection, opened) → SetsUp setup →
      after.events = opened.events ++ setup → Acquired c.opens connection before after := by
    intro connection opened setup hopen hsetup hafter
    rw [hopen] at hopening
    cases hopening with
    | opened hbefore hnone hrenews =>
      rw [hbefore, List.append_assoc] at hafter
      exact ⟨hnone, hrenews, _, _, _, setup, hsetup, hafter⟩
  cases htried with
  | unopened hopen hevents =>
    rw [hopen] at hopening
    cases hopening with
    | unasked hbefore => exact .unopened (.inl (hevents.trans hbefore))
    | refused hbefore hfailure =>
      exact .unopened (.inr ⟨by rw [hfailure]; rfl, _, _, _, hevents.trans hbefore⟩)
  | @unready connection _ opened _ _ hholding hopen hgreet hevents =>
    obtain ⟨setup, hsetup, hafter⟩ := c'.readies_greet connection opened
    rw [hgreet] at hafter
    subst hholding
    exact .unready (hacquired hopen hsetup (hevents.trans hafter))
  | @ready connection opened _ hholding hopen hgreet =>
    obtain ⟨setup, hsetup, hafter⟩ := c'.readies_greet connection opened
    rw [hgreet] at hafter
    subst hholding
    exact .ready (hacquired hopen hsetup hafter)

theorem exists_connecting (c : Connector) (before : Activity) :
    ∃ c' outcome after, c.connect before = (.ok (c', outcome), after) ∧
      Connecting c before after c' outcome := by
  unfold connect
  cases c.driver? with
  | none => exact ⟨c, _, before, rfl, .unopened (.inl rfl)⟩
  | some driver =>
    dsimp only
    rw [bind_run_ok (surroundings_run _)]
    split
    · cases c.entry.port.truth with
      | ok _ => exact c.exists_connecting_of_driver driver before
      | error failure => exact ⟨c, _, before, rfl, .unopened (.inl rfl)⟩
    · exact ⟨c, _, before, rfl, .unopened (.inl rfl)⟩

/-- The type of the database names the driver of a connection that was opened. -/
theorem exists_driver_of_connect {c' : Connector} {connection : Connection} {after : Activity}
    (h : c.connect activity = (.ok (c', .ok connection), after)) :
    ∃ driver, c.driver? = some driver := by
  cases hdriver : c.driver? with
  | some driver => exact ⟨driver, rfl⟩
  | none =>
    rw [connect, hdriver] at h
    cases h

/-! ## Closing -/

/-- Unless closing is interrupted, its failure is swallowed. -/
theorem exists_closeConnection (c : Connector) {connection : Connection}
    (hclose : ∀ failure, connection.closeFailure = some failure → failure.isOrdinary = true)
    (before : Activity) :
    ∃ after, c.closeConnection connection before = (.ok (), after) ∧
      after.events = before.events ++ [.closeConnection] := by
  unfold closeConnection
  rw [bind_run_ok (attempt_run _ _), connection.close_run]
  cases hfailure : connection.closeFailure with
  | none => exact ⟨_, rfl, rfl⟩
  | some failure =>
    dsimp only
    rw [if_pos (hclose failure hfailure)]
    exact ⟨_, rfl, rfl⟩

theorem release_of_held {connection : Connection} (hheld : c.held = some connection)
    {before after : Activity} (hclose : c.closeConnection connection before = (.ok (), after)) :
    c.release before = (.ok (), after) := by
  rw [release, close, hheld]
  dsimp only
  rw [bind_assoc, bind_run_ok (attempt_run _ _), hclose]
  rfl

end Connector

variable {α : Type}

open Connector

/-- Working with a new connection: what the driver did not open is not closed, and what it opened is
closed once, when it could not be made ready or behind the work.  The work sees the connection that
was opened, and the type, the name and the driver of its database. -/
inductive Lent (e : DatabaseEntry) (opens : Connection) (body : Client → Act α)
    (before : Activity) : Except Failure α → Activity → Prop
  | unmade {failure : Failure} {after : Activity} :
      Connector.make e opens before = (.error failure, after) → after.events = before.events →
      Lent e opens body before (.error failure) after
  | unopened {c : Connector} {made after : Activity} {failure : Failure} :
      Connector.make e opens before = (.ok c, made) →
      c.connect made = (.ok (c, .error failure), after) → Refused opens before after →
      Lent e opens body before (.error failure) after
  | unready {c c' : Connector} {connection : Connection} {made ready after : Activity}
      {failure : Failure} :
      Connector.make e opens before = (.ok c, made) →
      c.connect made = (.ok (c', .error failure), ready) →
      Acquired opens connection before ready →
      c'.closeConnection connection ready = (.ok (), after) →
      after.events = ready.events ++ [.closeConnection] →
      Lent e opens body before (.error failure) after
  | worked {c c' : Connector} {connection : Connection} {driver : String} {client : Client}
      {made ready done after : Activity} {outcome : Except Failure α} :
      Connector.make e opens before = (.ok c, made) →
      c.connect made = (.ok (c', .ok connection), ready) →
      Acquired opens connection before ready →
      c.driver? = some driver →
      client = { type := c.type, name := e.database, driver := .text driver
                 connection := some connection } →
      body client ready = (outcome, done) →
      c'.closeConnection connection done = (.ok (), after) →
      after.events = done.events ++ [.closeConnection] →
      Lent e opens body before outcome after

theorem lent_of_withEntry {opens : Connection}
    (hclose : ∀ failure, opens.closeFailure = some failure → failure.isOrdinary = true)
    (e : DatabaseEntry) (body : Client → Act α) (before : Activity) :
    Lent e opens body before (withEntry e opens body before).1
      (withEntry e opens body before).2 := by
  rcases hmake : Connector.make e opens before with ⟨failure | c, made⟩
  · rw [withEntry, bind_run_error hmake]
    exact .unmade hmake ((keepsEvents_make e opens).events_eq hmake)
  · have hmade := (keepsEvents_make e opens).events_eq hmake
    obtain ⟨hentry, hopens, hheld⟩ := of_make hmake
    obtain ⟨c', outcome, ready, hconnect, hconnecting⟩ := c.exists_connecting made
    have hclient : c.client made = (.ok (c', outcome.map c'.clientOf), ready) := by
      rw [client, hheld]
      dsimp only
      rw [bind_run_ok hconnect]
      rfl
    -- a renewed connection closes as the given one does
    have hordinary : ∀ {connection : Connection}, Acquired c.opens connection made ready →
        ∀ failure, connection.closeFailure = some failure → failure.isOrdinary = true := by
      rintro connection ⟨-, ⟨serial, rfl⟩, -⟩
      rw [hopens]
      exact hclose
    have hrun : withEntry e opens body before =
        ensuring (Act.ofExcept (outcome.map c'.clientOf) >>= body) c'.release ready := by
      rw [withEntry, bind_run_ok hmake, bind_run_ok hclient]
    cases hconnecting with
    | @unopened failure hrefused =>
      have hwork : (Act.ofExcept (Except.map c.clientOf (.error failure)) >>= body) ready =
          (.error failure, ready) := rfl
      have hrelease : c.release ready = (.ok (), ready) := by
        rw [release, close, hheld]
        rfl
      rw [Refused, hmade, hopens] at hrefused
      rw [hrun, ensuring_run hwork hrelease]
      exact .unopened hmake hconnect hrefused
    | @unready connection failure hacquired =>
      let holding : Connector := { c with held := some connection }
      have hwork : (Act.ofExcept (Except.map holding.clientOf (.error failure)) >>= body) ready =
          (.error failure, ready) := rfl
      obtain ⟨after, hclosed, hevents⟩ :=
        holding.exists_closeConnection (hordinary hacquired) ready
      rw [Acquired, hmade, hopens] at hacquired
      rw [hrun, ensuring_run hwork (release_of_held rfl hclosed)]
      exact .unready hmake hconnect hacquired hclosed hevents
    | @ready connection hacquired =>
      let holding : Connector := { c with held := some connection }
      rcases hbody : body (holding.clientOf connection) ready with ⟨outcome, done⟩
      have hwork : (Act.ofExcept (Except.map holding.clientOf (.ok connection)) >>= body) ready =
          (outcome, done) := hbody
      obtain ⟨after, hclosed, hevents⟩ :=
        holding.exists_closeConnection (hordinary hacquired) done
      rw [Acquired, hmade, hopens] at hacquired
      rw [hrun, ensuring_run hwork (release_of_held rfl hclosed)]
      obtain ⟨driver, hdriver⟩ := exists_driver_of_connect hconnect
      refine .worked hmake hconnect hacquired hdriver ?_ hbody hclosed hevents
      -- a connector keeps its entry and its type while it connects
      rw [clientOf, show holding.driver? = some driver from hdriver, ← hentry]

/-- Work with a client of a new connection, for an entry or for the database of a name: unless
closing is interrupted, the connection is lent. -/
theorem lends {opens : Connection}
    (hclose : ∀ failure, opens.closeFailure = some failure → failure.isOrdinary = true)
    (body : Client → Act α) (before : Activity) :
    (∀ e, Lent e opens body before (withEntry e opens body before).1
      (withEntry e opens body before).2) ∧
    ∀ name,
      (∃ failure after, Settings.requireCurrent name before = (.error failure, after) ∧
        withDatabase name opens body before = (.error failure, after) ∧
        after.events = before.events) ∨
      ∃ e found, Settings.requireCurrent name before = (.ok e, found) ∧
        found.events = before.events ∧
        Lent e opens body found (withDatabase name opens body before).1
          (withDatabase name opens body before).2 := by
  refine ⟨fun e => lent_of_withEntry hclose e body before, fun name => ?_⟩
  have hkeeps : (Settings.requireCurrent name).KeepsEvents := by
    refine keepsEvents_get.bind fun activity => ?_
    refine (keepsEvents_ofExcept _).bind fun key => ?_
    exact Settings.keepsEvents_current.bind fun held => keepsEvents_ofExcept _
  rcases hrequire : Settings.requireCurrent name before with ⟨failure | e, found⟩
  · exact .inl ⟨failure, found, rfl, bind_run_error hrequire, hkeeps.events_eq hrequire⟩
  · refine .inr ⟨e, found, rfl, hkeeps.events_eq hrequire, ?_⟩
    rw [withDatabase, bind_run_ok hrequire]
    exact lent_of_withEntry hclose e body found

/-- The work fails and so does closing: the connection is closed once, and the failure of the work
is what is left. -/
theorem lends_failing_work :
    let e : DatabaseEntry := { type := .text "sqlite" }
    let opens : Connection := { closeFailure := some (.raised .runtime "stuck") }
    let body : Client → Act Unit := fun _ => throw (.raised .invalidValue "bad")
    let before : Activity :=
      { replacement := some { serial := 0, settings := {} }
        surroundings := { drivers := [("sqlite3", none)] } }
    let run := withEntry e opens body before
    Lent e opens body before run.1 run.2 ∧ run.1 = .error (.raised .invalidValue "bad") ∧
      run.2.events.map Event.isClosing = [false, true] := by
  intro e opens body before run
  have hclose : ∀ failure, opens.closeFailure = some failure → failure.isOrdinary = true := by
    rintro failure hfailure
    cases hfailure
    rfl
  exact ⟨(lends hclose body before).1 e, by rfl, by decide +kernel⟩

end BoundUpdate
