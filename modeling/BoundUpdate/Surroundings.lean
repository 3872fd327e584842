import BoundUpdate.Failure.Basic

namespace BoundUpdate

/-!
# Surroundings

What the library finds around it: variables of the environment, files of the
working directory and elsewhere, home directories, drivers that can be loaded
and the version of the embedded database engine.  Others change the variables
and the files while the library runs.
-/

/-- The drivers that are usually there, with the words for their marker styles. -/
def commonDrivers : List (String × Option String) :=
  [("sqlite3", some "qmark"), ("pymysql", some "pyformat"), ("psycopg2", some "pyformat")]

/-- What stands at the end of a path. -/
inductive Found where
  | nothing
  | directory
  | file (bytes : List UInt8)
  /-- The system refuses to look there or to read what is there. -/
  | refused (className reason : String)
  deriving DecidableEq, Repr

/-- What the library finds around it. -/
structure Surroundings where
  /-- The environment variables; every name occurs once. -/
  environment : List (String × String) := []
  /-- The files of the working directory, by relative path. -/
  files : List (String × List UInt8) := []
  /-- The absolute path of the working directory. -/
  directory : String := "/"
  /-- What stands outside the working directory, by the steps from the root. -/
  elsewhere : List String → Found := fun _ => .nothing
  /-- The home directory of the account, for when no variable tells one. -/
  ownHome : Option String := none
  /-- The home directories of all accounts, by name. -/
  homes : List (String × String) := []
  /-- The drivers that can be loaded, with the word for their marker style if they tell it. -/
  drivers : List (String × Option String) := commonDrivers
  /-- The version of the embedded database engine. -/
  sqliteVersion : String := "3.40.1"
  /-- How many calls may still lie in each other. -/
  nesting : Nat := Nesting.usual

namespace Surroundings

/-- Replace the value under a name, or add it. -/
def assign {α : Type} (name : String) (a : α) (entries : List (String × α)) :
    List (String × α) :=
  (name, a) :: entries.filter fun entry => entry.1 != name

/-- The value of a variable, if it is set. -/
def valueOf? (s : Surroundings) (name : String) : Option String := s.environment.lookup name

/-- Set a variable. -/
def setVariable (s : Surroundings) (name value : String) : Surroundings :=
  { s with environment := assign name value s.environment }

/-- Remove a variable. -/
def unsetVariable (s : Surroundings) (name : String) : Surroundings :=
  { s with environment := s.environment.filter fun entry => entry.1 != name }

/-- Write a file. -/
def writeFile (s : Surroundings) (path : String) (bytes : List UInt8) : Surroundings :=
  { s with files := assign path bytes s.files }

/-- Remove a file. -/
def removeFile (s : Surroundings) (path : String) : Surroundings :=
  { s with files := s.files.filter fun entry => entry.1 != path }

@[simp]
theorem valueOf?_setVariable (s : Surroundings) (name value : String) :
    (s.setVariable name value).valueOf? name = some value := by
  simp [valueOf?, setVariable, assign]

end Surroundings
end BoundUpdate
