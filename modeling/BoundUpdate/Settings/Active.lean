import BoundUpdate.Activity.Basic
import BoundUpdate.Settings.Sources

namespace BoundUpdate

/-!
# Settings in force

Settings may be replaced for a while; otherwise they are loaded from files or
variables.  Loaded settings are kept by the variables with settings, so they
follow every change of those, but not of other variables that they refer to; a
failed load is not kept.
-/

namespace Settings

/-- The start of the names of all variables with settings. -/
def variableStart : String := "QB_"

/-- The variable that chooses the source. -/
def sourceName : String := variableStart ++ "SOURCE"

/-- Whether a variable holds settings. -/
def isOwnVariable (name : String) : Bool :=
  Text.startsWith name.toList variableStart.toList

/-- The variables with settings, in the order of their names. -/
def fingerprint (s : Surroundings) : List (String × String) :=
  (s.environment.filter fun entry => isOwnVariable entry.1).mergeSort fun a b => a.1 ≤ b.1

/-- The location of the settings that are loaded when nothing else is said. -/
def standardLocation (s : Surroundings) : Location :=
  Location.inDirectory s ["config", "querybind.config.json"]

/-- The word for the source of settings. -/
def sourceWord (s : Surroundings) : String :=
  String.ofList (Text.lower ((s.valueOf? sourceName).getD "auto").toList)

/-- The settings of the files that variables name. -/
def fromNamedFiles (s : Surroundings) : Except Failure Settings :=
  fromFiles s (locationIn s (variableStart ++ "CONFIG_PATH"))
    (locationIn s (variableStart ++ "DBINFOS_PATH"))

/-- The settings of the first source that is there: files that variables name, variables, the
standard file, or nothing. -/
def fromFirstSource (s : Surroundings) : Except Failure Settings :=
  if (locationIn s (variableStart ++ "CONFIG_PATH")).isSome ||
      (locationIn s (variableStart ++ "DBINFOS_PATH")).isSome then fromNamedFiles s
  else if s.environment.any fun entry => isOwnVariable entry.1 && entry.1 != sourceName then
    fromVariables s variableStart
  else if (standardLocation s).find s != .nothing then
    fromFiles s (some (standardLocation s)) none
  else .ok {}

/-- Load settings. -/
def load (s : Surroundings) : Except Failure Settings :=
  if sourceWord s = "env" then fromVariables s variableStart
  else if sourceWord s = "files" then fromNamedFiles s
  else fromFirstSource s

/-- The entry of a database; without a name the default one is meant, and without a default the
first one. -/
def require (settings : Settings) (name : Value) : Except Failure DatabaseEntry :=
  match settings.databases with
  | [] => .error (.configuration .noDatabases)
  | first :: _ =>
    do
      let key ← name.orElse settings.defaultDatabase
      if !(← key.truth) then return first.2
      else
        match settings.databases.find? fun entry => entry.1.sameKey key, key.keyFault? with
        | some (_, entry), none => return entry
        | none, none => throw (key.failShowing fun text => .configuration (.unknownDatabase text))
        | _, some failure =>
          if failure.kind = .missingKey then
            throw (key.failShowing fun text => .configuration (.unknownDatabase text))
          else throw failure

/-- How many loads are kept. -/
def keptLoads : Nat := 8

/-- Settings with a new serial number. -/
def hold (settings : Settings) : Act HeldSettings := do
  return { serial := ← Act.freshSerial, settings }

/-- The loaded settings: those kept for the present variables, or else newly loaded ones. -/
def loaded : Act HeldSettings := do
  let activity ← get
  let key := fingerprint activity.surroundings
  let others := activity.loaded.filter fun entry => entry.1 != key
  match activity.loaded.lookup key with
  | some held =>
    modify fun activity => { activity with loaded := (key, held) :: others }
    return held
  | none =>
    let held ← hold (← Act.ofExcept (load activity.surroundings))
    modify fun activity =>
      { activity with loaded := ((key, held) :: others).take keptLoads }
    return held

/-- The settings in force. -/
def current : Act HeldSettings := do
  match (← get).replacement with
  | some held => return held
  | none => loaded

/-- The entry of a database in the settings in force; without a name the one that was chosen is
meant. -/
def requireCurrent (name : Value) : Act DatabaseEntry := do
  let key ← Act.ofExcept (name.orElse (← get).databaseKey)
  let held ← current
  Act.ofExcept (held.settings.require key)

/-- Replace the settings in force, or return to the loaded ones. -/
def configure (replacement : Option HeldSettings) : Act Unit :=
  modify fun activity => { activity with replacement }

/-- Choose the database that is meant when none is named. -/
def useDatabase (key : Value) : Act Unit :=
  modify fun activity => { activity with databaseKey := key }

/-- Forget all loaded settings. -/
def reload : Act Unit := modify fun activity => { activity with loaded := [] }

/-- What is in force for a while. -/
inductive Override where
  | settings (replacement : Option HeldSettings)
  | database (key : Value)

namespace Override

/-- Put an override in force. -/
def apply : Override → Act Unit
  | .settings replacement => configure replacement
  | .database key => useDatabase key

/-- Put an override in force and answer what was in force before. -/
def enter (override : Override) : Act Override := do
  let activity ← get
  override.apply
  return match override with
    | .settings _ => .settings activity.replacement
    | .database _ => .database activity.databaseKey

/-- Do something under an override. -/
def during {α : Type} (override : Override) (x : Act α) : Act α := do
  let before ← override.enter
  Act.ensuring x before.apply

end Override
end Settings
end BoundUpdate
