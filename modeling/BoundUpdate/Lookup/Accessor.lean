import BoundUpdate.Text.LetterCase

namespace BoundUpdate

/-!
# Names of accessors

A member that is not a field is read by calling an accessor.  Its name is a
prefix and the member's name: first with the member's first letter raised, for
every prefix in order, then with a low line between the two, if snake case
names are wanted.
-/

/-- How accessors are named. -/
structure AccessorConvention where
  prefixes : List String := ["get", "is"]
  snakeCase : Bool := true
  deriving DecidableEq, Repr

namespace AccessorConvention

/-- The convention that is used unless another one is chosen. -/
def standard : AccessorConvention := {}

/-- A name with its first letter in upper case. -/
def capitalize : List Char → List Char
  | [] => []
  | c :: rest => Text.upperChar c ++ rest

/-- The accessor names of a member, in the order they are tried. -/
def accessorNames (convention : AccessorConvention) (name : String) : List String :=
  let camel := convention.prefixes.map fun start =>
    start ++ String.ofList (capitalize name.toList)
  let snake := convention.prefixes.map fun start => start ++ "_" ++ name
  if convention.snakeCase then camel ++ snake else camel

end AccessorConvention
end BoundUpdate
