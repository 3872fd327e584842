import BoundUpdate.Failure.Basic
import BoundUpdate.Template.Basic

namespace BoundUpdate

/-!
# Bind markers

A driver reads statement text in which every placeholder is a bind marker.
Drivers differ in the marker: it may be the same for every value, carry the
number of the value, or name it.  Where a percent sign starts a marker,
literal percent signs are doubled.
-/

/-- The bind markers that a driver understands. -/
inductive MarkerStyle where
  /-- `?` -/
  | qmark
  /-- `%s` -/
  | format
  /-- `%s`, for drivers that also take named values -/
  | pyformat
  /-- `:1` -/
  | numeric
  /-- `:p1` -/
  | named
  deriving DecidableEq, Repr

namespace MarkerStyle

/-- The word for a style. -/
def word : MarkerStyle → String
  | .qmark => "qmark"
  | .format => "format"
  | .pyformat => "pyformat"
  | .numeric => "numeric"
  | .named => "named"

/-- All styles. -/
def all : List MarkerStyle := [.qmark, .format, .pyformat, .numeric, .named]

/-- The style of a word. -/
def ofWord? (word : String) : Option MarkerStyle := all.find? fun style => style.word == word

@[simp]
theorem ofWord?_word (style : MarkerStyle) : ofWord? style.word = some style := by
  cases style <;> decide

/-- Whether a percent sign in a statement starts a marker. -/
def usesPercent : MarkerStyle → Bool
  | .format => true
  | .pyformat => true
  | _ => false

/-- The marker of the value at a position, counted from one. -/
def marker (style : MarkerStyle) (position : Nat) : List Char :=
  match style with
  | .qmark => ['?']
  | .format => ['%', 's']
  | .pyformat => ['%', 's']
  | .numeric => ':' :: Number.natChars position
  | .named => ':' :: 'p' :: Number.natChars position

/-- Literal text as the driver has to be given it. -/
def literal (style : MarkerStyle) (text : List Char) : List Char :=
  if style.usesPercent then text.flatMap fun c => if c = '%' then ['%', '%'] else [c] else text

end MarkerStyle

namespace Template

/-- Segments with markers for their placeholders; the first placeholder has the given position. -/
def renderFrom (style : MarkerStyle) (position : Nat) : List Segment → List Char
  | [] => []
  | .literal text :: rest => style.literal text.toList ++ renderFrom style position rest
  | .placeholder _ :: rest => style.marker position ++ renderFrom style (position + 1) rest

/-- The statement text for a driver. -/
def render (t : Template) (style : MarkerStyle) : String :=
  String.ofList (renderFrom style 1 t.segments)

/-- The statement text for a driver whose style is given by its word. -/
def renderAs (t : Template) (word : String) : Except Failure String :=
  match MarkerStyle.ofWord? word with
  | some style => .ok (t.render style)
  | none => .error (.raised .invalidValue ("Unsupported paramstyle: " ++ word))

@[simp]
theorem renderAs_word (t : Template) (style : MarkerStyle) :
    t.renderAs style.word = .ok (t.render style) := by
  simp [renderAs]

end Template
end BoundUpdate
