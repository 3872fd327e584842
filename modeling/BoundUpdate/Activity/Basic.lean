import BoundUpdate.Declaration.Mode
import BoundUpdate.Settings.Basic
import BoundUpdate.Surroundings
import BoundUpdate.Template.Basic

namespace BoundUpdate

/-!
# Activities

An activity is a computation that may fail and that leaves traces whether it
fails or not: runs of counting routines, notes, events, statements sent, cached
templates and settings.  Reading members of values touches the counted runs
only; such a computation is a probe.
-/

/-!
## The journal

What the library does is noted in a journal: how serious a note is, which part
of the library wrote it and its text.
-/

/-- How serious a note is. -/
inductive Level where
  | debug
  | info
  | warning
  | error
  deriving DecidableEq, Repr

/-- The word for a level. -/
def Level.word : Level → String
  | .debug => "DEBUG"
  | .info => "INFO"
  | .warning => "WARNING"
  | .error => "ERROR"

/-- The part of the library that wrote a note. -/
inductive Origin where
  | template
  | members
  | specification
  | invocation
  | extraction
  | unit
  | sqlite
  | mysql
  | generic
  | query
  | connection
  deriving DecidableEq, Repr

/-- A note in the journal. -/
structure Record where
  level : Level
  origin : Origin
  message : String
  deriving DecidableEq, Repr

/-!
## Operations seen from outside

The operations on execution units, drivers and connections are the ones that
others can observe.  Each is an event with its operands.
-/

/-- An operation on an execution unit, a driver or a connection. -/
inductive Event where
  /-- A unit prepares a statement. -/
  | prepare (source : String) (keys : KeyRequest) (columns : List Value)
  /-- A unit binds a value at a position. -/
  | bind (position value : Value)
  /-- A unit executes a statement once. -/
  | executeSingle (parameters : List Value)
  /-- A unit executes a statement for every set of parameters. -/
  | executeBatch (sets : List (List Value))
  | openCursor
  /-- A cursor executes a statement text with parameters. -/
  | send (statement : String) (parameters : Value)
  | fetch
  | closeCursor
  | closeConnection
  | setAutocommit (on : Bool)
  /-- A driver opens a connection. -/
  | connect (driver : String) (positional : List Value) (named : List (String × Value))
  /-- Work is done with a client. -/
  | body (type name driver : Value)

/-! ## Activities -/

/-- How often each counting routine has run. -/
abbrev Counts := Nat → Nat

/-- Settings with a serial number: two loads of equal settings differ in it. -/
structure HeldSettings where
  serial : Nat
  settings : Settings

/-- A template with a serial number: reading one text twice gives templates that differ in it. -/
structure HeldTemplate where
  serial : Nat
  template : Template
  /-- The text as messages tell it: a member of an enumeration is told by its name. -/
  told : String := template.source
  deriving DecidableEq, Repr

/-- What a template is kept under: its text, apart for members of textual enumerations. -/
structure TemplateKey where
  isMember : Bool
  source : String
  deriving DecidableEq, Repr

/-- The traces of activities. -/
structure Activity where
  counts : Counts := fun _ => 0
  journal : List Record := []
  events : List Event := []
  /-- How many statements each connection has executed. -/
  sent : Nat → Nat := fun _ => 0
  /-- The templates read so far. -/
  templates : List (TemplateKey × HeldTemplate) := []
  /-- The settings that replace the loaded ones. -/
  replacement : Option HeldSettings := none
  /-- The database that is meant when none is named. -/
  databaseKey : Value := .none
  /-- Settings loaded for a fingerprint of the environment, most recently used first. -/
  loaded : List (List (String × String) × HeldSettings) := []
  nextSerial : Nat := 0
  surroundings : Surroundings := {}

/-- A computation on values. -/
abbrev Probe := ExceptT Failure (StateM Counts)

/-- A computation of the library. -/
abbrev Act := ExceptT Failure (StateM Activity)

namespace Probe

/-- Run a probe from given counts. -/
def runOn {α : Type} (x : Probe α) (counts : Counts) : Except Failure α × Counts := x counts

/-- A value or a failure. -/
def ofExcept {α : Type} (x : Except Failure α) : Probe α := fun counts => (x, counts)

/-- The outcome of a probe as a value; it does not fail. -/
def attempt {α : Type} (x : Probe α) : Probe (Except Failure α) := fun counts =>
  let (outcome, counts) := x counts
  (.ok outcome, counts)

/-- One more run of a counting routine; answers the number of runs. -/
def countRun (cell : Nat) : Probe Nat := fun counts =>
  let n := counts cell + 1
  (.ok n, fun other => if other = cell then n else counts other)

@[simp]
theorem ofExcept_run {α : Type} (x : Except Failure α) (counts : Counts) :
    ofExcept x counts = (x, counts) := rfl

@[simp]
theorem attempt_run {α : Type} (x : Probe α) (counts : Counts) :
    attempt x counts = (.ok (x counts).1, (x counts).2) := rfl

@[simp]
theorem ofExcept_ok_bind {α β : Type} (a : α) (f : α → Probe β) :
    (ofExcept (.ok a) >>= f) = f a := rfl

@[simp]
theorem ofExcept_error {α : Type} (failure : Failure) :
    (ofExcept (.error failure) : Probe α) = throw failure := rfl

end Probe

namespace Act

/-- Run an activity. -/
def runOn {α : Type} (x : Act α) (activity : Activity) : Except Failure α × Activity := x activity

/-- The outcome of an activity as a value; it does not fail. -/
def attempt {α : Type} (x : Act α) : Act (Except Failure α) := fun activity =>
  let (outcome, activity) := x activity
  (.ok outcome, activity)

/-- A value or a failure. -/
def ofExcept {α : Type} (x : Except Failure α) : Act α := fun activity => (x, activity)

/-- A probe as an activity. -/
def probe {α : Type} (x : Probe α) : Act α := fun activity =>
  let (outcome, counts) := x activity.counts
  (outcome, { activity with counts })

/-- Write a note. -/
def note (level : Level) (origin : Origin) (message : String) : Act Unit := fun activity =>
  (.ok (), { activity with journal := activity.journal ++ [{ level, origin, message }] })

/-- Make an operation observable. -/
def observe (event : Event) : Act Unit := fun activity =>
  (.ok (), { activity with events := activity.events ++ [event] })

/-- What is around the library at the moment. -/
def surroundings : Act Surroundings := fun activity => (.ok activity.surroundings, activity)

/-- Change what is around the library. -/
def changeSurroundings (f : Surroundings → Surroundings) : Act Unit := fun activity =>
  (.ok (), { activity with surroundings := f activity.surroundings })

/-- The answer of an activity with the operations that became observable while it ran. -/
def traced {α : Type} (x : Act α) : Act (α × List Event) := fun activity =>
  match x activity with
  | (.ok a, after) => (.ok (a, after.events.drop activity.events.length), after)
  | (.error failure, after) => (.error failure, after)

/-- A number that no template and no settings have yet. -/
def freshSerial : Act Nat := fun activity =>
  (.ok activity.nextSerial, { activity with nextSerial := activity.nextSerial + 1 })

/-- Do `last` after `x` in any case; a failure of `last` wins. -/
def ensuring {α : Type} (x : Act α) (last : Act Unit) : Act α := do
  let outcome ← attempt x
  last
  ofExcept outcome

@[simp]
theorem attempt_run {α : Type} (x : Act α) (activity : Activity) :
    attempt x activity = (.ok (x activity).1, (x activity).2) := rfl

@[simp]
theorem ofExcept_run {α : Type} (x : Except Failure α) (activity : Activity) :
    ofExcept x activity = (x, activity) := rfl

@[simp]
theorem probe_run {α : Type} (x : Probe α) (activity : Activity) :
    probe x activity =
      ((x activity.counts).1, { activity with counts := (x activity.counts).2 }) := rfl

@[simp]
theorem surroundings_run (activity : Activity) :
    surroundings activity = (.ok activity.surroundings, activity) := rfl

@[simp]
theorem changeSurroundings_run (f : Surroundings → Surroundings) (activity : Activity) :
    changeSurroundings f activity =
      (.ok (), { activity with surroundings := f activity.surroundings }) := rfl

@[simp]
theorem note_run (level : Level) (origin : Origin) (message : String) (activity : Activity) :
    note level origin message activity =
      (.ok (), { activity with journal := activity.journal ++ [{ level, origin, message }] }) := rfl

@[simp]
theorem observe_run (event : Event) (activity : Activity) :
    observe event activity =
      (.ok (), { activity with events := activity.events ++ [event] }) := rfl

end Act

end BoundUpdate
