import BoundUpdate.Annotation.Fault

namespace BoundUpdate
namespace Annotation

/-!
# Running annotations

An expression is evaluated in a scope of names.  What evaluates expressions,
calls functions and runs through values is handed to every operation that needs
it, so that each operation is defined by itself.
-/

/-- The names of a function that runs, or of a comprehension. -/
structure Frame where
  /-- Whether names given inside belong to the frame around. -/
  isComprehension : Bool
  names : List (String × Meaning)

/-- The names that are known. -/
structure Scope where
  /-- The frames, innermost first. -/
  frames : List Frame := []
  /-- The names outside of all frames. -/
  outer : List (String × Meaning) := []

/-- An evaluation that may give names to values. -/
abbrev Evaluation := StateT Scope Evaluated

/-- The arguments of a call. -/
structure Arguments where
  positional : List Meaning
  named : List (String × Meaning) := []

/-- What runs the parts of an annotation. -/
structure Machine where
  evaluate : Expression → Evaluation Meaning
  call : Meaning → Arguments → Evaluation Meaning
  /-- The items that running through a value gives. -/
  items : Meaning → Evaluation (List Meaning)
  /-- Evaluate the body of a function that is called. -/
  enter : Expression → Evaluation Meaning

namespace Scope

/-- What a name has been given. -/
def find? (s : Scope) (name : String) : Option Meaning :=
  (s.frames.findSome? fun f => f.names.lookup name) <|> s.outer.lookup name

/-- Names with a value given to one of them. -/
def put (names : List (String × Meaning)) (name : String) (m : Meaning) : List (String × Meaning) :=
  (name, m) :: names.filter fun e => e.1 != name

/-- Frames with a value given to a name in the innermost one that is no comprehension; `none` when
there is none. -/
def assignIn (name : String) (m : Meaning) : List Frame → Option (List Frame)
  | [] => none
  | f :: rest =>
    if f.isComprehension then (assignIn name m rest).map (f :: ·)
    else some ({ f with names := put f.names name m } :: rest)

/-- A scope with a value given to a name. -/
def assign (s : Scope) (name : String) (m : Meaning) : Scope :=
  match assignIn name m s.frames with
  | some frames => { s with frames }
  | none => { s with outer := put s.outer name m }

/-- A scope with a value given to a name of the innermost frame. -/
def bindLoop (s : Scope) (name : String) (m : Meaning) : Scope :=
  match s.frames with
  | f :: rest => { s with frames := { f with names := put f.names name m } :: rest }
  | [] => { s with outer := put s.outer name m }

/-- The names of all frames; inner ones hide outer ones. -/
def captured (s : Scope) : List (String × Meaning) := s.frames.flatMap Frame.names

end Scope

namespace Evaluation

/-- Run an evaluation in other frames; names outside of all frames stay shared. -/
def within {α : Type} (frames : List Frame) (e : Evaluation α) : Evaluation α := do
  let before ← get
  let (a, after) ← e.run { before with frames }
  modify fun s => { s with outer := after.outer }
  return a

/-- Run an evaluation in a further frame; names given to frames around stay given. -/
def inside {α : Type} (f : Frame) (e : Evaluation α) : Evaluation α := do
  let before ← get
  let (a, after) ← e.run { before with frames := f :: before.frames }
  modify fun _ => { after with frames := after.frames.drop 1 }
  return a

end Evaluation

namespace Arguments

/-- The arguments without names, for functions that take no other ones. -/
def unnamed (a : Arguments) : Evaluated (List Meaning) :=
  if a.named.isEmpty then .ok a.positional else Evaluated.misfit "takes no keyword arguments"

/-- The argument of each parameter; `required` parameters must have one.  A parameter without a
name is given by its place only. -/
def bind (parameters : List String) (required : Nat) (a : Arguments) :
    Evaluated (List (Option Meaning)) :=
  let byPlace := a.positional.length
  if parameters.length < byPlace then Evaluated.misfit "too many arguments"
  else if a.named.any fun e => !((parameters.drop byPlace).contains e.1) || e.1.isEmpty then
    Evaluated.misfit "unexpected keyword argument"
  else
    let given := a.positional.map some ++ (parameters.drop byPlace).map fun p => a.named.lookup p
    if (given.take required).all Option.isSome then .ok given
    else Evaluated.misfit "missing argument"

end Arguments
end Annotation
end BoundUpdate
