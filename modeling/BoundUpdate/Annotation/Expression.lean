import BoundUpdate.Number.Binary64

namespace BoundUpdate
namespace Annotation

/-!
# Annotation expressions

An annotation is written as an expression.  Most are names of types, types
applied to parameters in brackets and alternatives between bars; but remarks on
types may be any values, so that every expression of the language may occur.
-/

/-- A value that is spelled out. -/
inductive Literal where
  | nothing
  | truth (b : Bool)
  | ellipsis
  | integer (n : Nat)
  | real (x : Number.Binary64)
  | imaginary (x : Number.Binary64)
  | text (s : String)
  | bytes (bs : List UInt8)
  deriving DecidableEq, Repr

/-- An operator in front of an operand. -/
inductive UnaryOperator where
  | no
  | plus
  | minus
  | invert
  deriving DecidableEq, Repr

/-- An operator between two operands that are both evaluated. -/
inductive BinaryOperator where
  | add
  | subtract
  | multiply
  | multiplyMatrices
  | divide
  | divideFloor
  | modulo
  | power
  | shiftLeft
  | shiftRight
  | bitAnd
  | bitXor
  | bitOr
  deriving DecidableEq, Repr

/-- A comparison of two operands. -/
inductive Comparison where
  | equal
  | unequal
  | less
  | lessEqual
  | greater
  | greaterEqual
  | same
  | notSame
  | member
  | notMember
  deriving DecidableEq, Repr

/-- How a comparison is written. -/
def Comparison.sign : Comparison → String
  | .equal => "=="
  | .unequal => "!="
  | .less => "<"
  | .lessEqual => "<="
  | .greater => ">"
  | .greaterEqual => ">="
  | .same => "is"
  | .notSame => "is not"
  | .member => "in"
  | .notMember => "not in"

/-- An argument of a call. -/
inductive Argument (α : Type) where
  | positional (value : α)
  /-- The items of a value as arguments. -/
  | spread (items : α)
  | named (name : String) (value : α)
  /-- The entries of a value as named arguments. -/
  | spreadEntries (entries : α)

/-- An entry of a dictionary. -/
inductive Entry (α : Type) where
  | pair (key value : α)
  /-- The entries of another dictionary. -/
  | spread (entries : α)

/-- A loop of a comprehension. -/
structure Clause (α : Type) where
  isAsync : Bool
  target : α
  source : α
  conditions : List α

/-- The parameters of a function; a parameter may have a default. -/
structure Parameters (α : Type) where
  positional : List (String × Option α) := []
  /-- How many of the positional parameters cannot be named. -/
  unnamed : Nat := 0
  /-- The parameter that takes the surplus of positional arguments. -/
  rest : Option String := none
  /-- The parameters that must be named. -/
  named : List (String × Option α) := []
  /-- The parameter that takes the surplus of named arguments. -/
  others : Option String := none

/-- A part of a formatted text. -/
inductive Piece (α : Type) where
  | text (s : String)
  /-- A value, converted first if a letter tells how, in a format that is made of pieces itself. -/
  | value (value : α) (conversion : Option Char) (format : List (Piece α))

/-- What a comprehension collects its items in. -/
inductive Collection where
  | generator
  | list
  | set
  deriving DecidableEq, Repr

/-- An expression. -/
inductive Expression where
  | literal (l : Literal)
  | name (name : String)
  | tuple (items : List Expression)
  | list (items : List Expression)
  | set (items : List Expression)
  | dict (entries : List (Entry Expression))
  /-- The items of a value in the place of one item. -/
  | starred (items : Expression)
  | member (owner : Expression) (name : String)
  | subscript (owner index : Expression)
  | slice (start stop step : Option Expression)
  | call (callee : Expression) (arguments : List (Argument Expression))
  | unary (operator : UnaryOperator) (operand : Expression)
  | binary (operator : BinaryOperator) (left right : Expression)
  /-- A chain of comparisons; each operand is compared with the next one. -/
  | compare (first : Expression) (rest : List (Comparison × Expression))
  | both (left right : Expression)
  | either (left right : Expression)
  | conditional (condition yes no : Expression)
  | lambda (parameters : Parameters Expression) (body : Expression)
  | comprehension (kind : Collection) (item : Expression) (clauses : List (Clause Expression))
  | dictComprehension (key value : Expression) (clauses : List (Clause Expression))
  /-- A value that is given a name. -/
  | assigned (name : String) (value : Expression)
  | formatted (pieces : List (Piece Expression))
  /-- A value that a function hands out while it runs. -/
  | yielded (value : Option Expression)
  | awaited (value : Expression)

instance : Inhabited Expression := ⟨.literal .nothing⟩

namespace Parameters

/-- The names of all parameters. -/
def names {α : Type} (p : Parameters α) : List String :=
  p.positional.map Prod.fst ++ p.rest.toList ++ p.named.map Prod.fst ++ p.others.toList

/-- The defaults of all parameters that have one. -/
def defaults {α : Type} (p : Parameters α) : List (String × α) :=
  (p.positional ++ p.named).filterMap fun (name, value) => value.map fun e => (name, e)

end Parameters

/-- The expressions in a format. -/
def Piece.parts {α : Type} : Piece α → List α
  | .text _ => []
  | .value e _ format => e :: format.attach.flatMap fun ⟨p, _⟩ => p.parts

/-- The expressions of a loop, the source first. -/
def Clause.parts {α : Type} (c : Clause α) : List α := c.source :: c.target :: c.conditions

/-- The expression of an argument. -/
def Argument.part {α : Type} : Argument α → α
  | .positional e => e
  | .spread e => e
  | .named _ e => e
  | .spreadEntries e => e

/-- The expressions of an entry. -/
def Entry.parts {α : Type} : Entry α → List α
  | .pair key value => [key, value]
  | .spread e => [e]

end Annotation
end BoundUpdate
