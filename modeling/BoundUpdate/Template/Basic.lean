import BoundUpdate.Number.Digits

namespace BoundUpdate

/-!
# Statement templates

A template is statement text with placeholders in it.  A placeholder names a
call argument by its index, counted from one, and possibly a path of members to
follow from there.  All other text is literal and is never interpreted.
-/

/-- A place in a statement that a bound value fills. -/
structure Placeholder where
  /-- The argument, counted from one. -/
  index : Int
  /-- The members to follow from the argument. -/
  path : List String := []
  deriving DecidableEq, Repr

/-- A stretch of a template. -/
inductive Segment where
  | literal (text : String)
  | placeholder (p : Placeholder)
  deriving DecidableEq, Repr

/-- A statement text and the segments it was read into. -/
structure Template where
  source : String
  segments : List Segment
  deriving DecidableEq, Repr

namespace Placeholder

/-- A source form of the placeholder: braces are used when there is a path. -/
def describe (p : Placeholder) : String :=
  if p.path.isEmpty then "?" ++ Number.intText p.index
  else "?\x7b" ++ String.intercalate "." (Number.intText p.index :: p.path) ++ "\x7d"

end Placeholder

namespace Segment

/-- The placeholder of a segment, if it is one. -/
def placeholder? : Segment → Option Placeholder
  | .literal _ => none
  | .placeholder p => some p

end Segment

namespace Template

/-- The placeholders in source order. -/
def placeholders (t : Template) : List Placeholder := t.segments.filterMap Segment.placeholder?

/-- The greatest argument index, zero without placeholders. -/
def maxIndex (t : Template) : Int := (t.placeholders.map (·.index)).foldl max 0

@[simp]
theorem placeholders_nil (source : String) : (Template.mk source []).placeholders = [] := rfl

end Template
end BoundUpdate
