import BoundUpdate.Surroundings
import BoundUpdate.Text.Split

namespace BoundUpdate

/-!
# Locations of files

A location is a path in its plain form: no empty steps and no steps that stay in
place.  Steps to the parent directory remain, since they lead elsewhere when a
directory does not exist.  A tilde at the front stands for a home directory.
-/

/-- A path in plain form. -/
structure Location where
  /-- What stands before the steps; nothing when the path starts in the working directory. -/
  root : String := ""
  /-- The names of directories that are walked through, and the name of the file. -/
  steps : List String
  deriving DecidableEq, Repr

namespace Location

/-- The steps that a path takes. -/
def stepsOf (path : List Char) : List String :=
  ((Text.splitOn '/' path).filter fun step => step != [] && step != ['.']).map String.ofList

/-- What stands before the steps of a path: one slash of an absolute path, but two of exactly
two. -/
def rootOf (path : List Char) : String :=
  match (path.takeWhile (· == '/')).length with
  | 0 => ""
  | 2 => "//"
  | _ => "/"

/-- The location that a path names. -/
def ofPath (path : String) : Location :=
  { root := rootOf path.toList, steps := stepsOf path.toList }

/-- The location that a path names; an empty path names none. -/
def ofPath? (path : String) : Option Location :=
  if path.isEmpty then none else some (ofPath path)

/-- A location as messages show it. -/
def text (l : Location) : String :=
  if l.root = "" ∧ l.steps = [] then "." else l.root ++ String.intercalate "/" l.steps

/-! ## The working directory -/

/-- The working directory as what stands before the steps of a path into it. -/
def directoryRoot (s : Surroundings) : String :=
  if s.directory.toList.getLast? = some '/' then s.directory else s.directory ++ "/"

/-- The steps from the root to the working directory. -/
def directorySteps (s : Surroundings) : List String := stepsOf s.directory.toList

/-- The location with given steps from the working directory, as an absolute path. -/
def inDirectory (s : Surroundings) (steps : List String) : Location :=
  { root := directoryRoot s, steps }

/-- The bytes of the file that lies at the end of some steps in the working directory. -/
def fileAt (s : Surroundings) (steps : List String) : Option (List UInt8) :=
  (s.files.find? fun entry => stepsOf entry.1.toList == steps).map Prod.snd

/-- Whether some steps in the working directory end in a directory, that is, on the way to a
file. -/
def isDirectoryAt (s : Surroundings) (steps : List String) : Bool :=
  s.files.any fun entry =>
    let whole := stepsOf entry.1.toList
    steps.isPrefixOf whole && steps.length < whole.length

/-- What stands at the end of steps from the root, none of which leads back. -/
def standsAt (s : Surroundings) (steps : List String) : Found :=
  let base := directorySteps s
  if steps.isPrefixOf base then .directory
  else if base.isPrefixOf steps then
    let inside := steps.drop base.length
    match fileAt s inside with
    | some bytes => .file bytes
    | none => if isDirectoryAt s inside then .directory else .nothing
  else s.elsewhere steps

/-! ## Finding -/

/-- How many bytes a text has. -/
def byteLength : List Char → Nat
  | [] => 0
  | c :: rest => c.utf8Size + byteLength rest

/-- How many bytes the name of a file or directory may have. -/
def longestName : Nat := 255

/-- How many bytes a path may have. -/
def longestPath : Nat := 4095

/-- A path that the system refuses for its length. -/
def tooLong : Found := .refused "OSError" "File name too long"

/-- What stands at the end of steps that are taken in the directory `here`, which is told by the
steps from the root. -/
def walk (s : Surroundings) (here : List String) : List String → Found
  | [] => .directory
  | step :: rest =>
    if longestName < byteLength step.toList then tooLong
    else if step = ".." then walk s here.dropLast rest
    else
      match standsAt s (here ++ [step]) with
      | .directory => walk s (here ++ [step]) rest
      | .file bytes => if rest.isEmpty then .file bytes else .nothing
      | found => found

/-- What stands at a location whose first step is no home directory. -/
def find (s : Surroundings) (l : Location) : Found :=
  if longestPath < byteLength l.text.toList then tooLong
  else if l.root = "" ∨ l.root = directoryRoot s then walk s (directorySteps s) l.steps
  else walk s [] l.steps

/-! ## Home directories -/

/-- The variable that tells the home directory of the account. -/
def homeName : String := "HOME"

/-- The account whose home directory a location starts with; the account itself has no name. -/
def account? (l : Location) : Option (List Char) :=
  match l.root, l.steps with
  | "", step :: _ =>
    match step.toList with
    | '~' :: account => some account
    | _ => none
  | _, _ => none

/-- The home directory of an account, as it is told. -/
def homeOf? (s : Surroundings) (account : List Char) : Option String :=
  if account = [] then s.valueOf? homeName <|> s.ownHome else s.homes.lookup (String.ofList account)

/-- A home directory without the slashes at its end. -/
def trimmed (home : String) : List Char :=
  match (home.toList.reverse.dropWhile (· == '/')).reverse with
  | [] => ['/']
  | kept => kept

/-- The location with the home directory that it starts with in place of the tilde; none if no home
directory is known. -/
def fromHome? (s : Surroundings) (l : Location) : Option Location :=
  match l.account? with
  | none => some l
  | some account =>
    match (homeOf? s account).map trimmed with
    | some ('~' :: _) => none
    | some home => some { root := rootOf home, steps := stepsOf home ++ l.steps.tail }
    | none => none

end Location
end BoundUpdate
