import BoundUpdate.Annotation.Reader

namespace BoundUpdate
namespace Annotation

/-!
# Placement of expressions

Some expressions have their places: a value is handed out by a function only and
awaited in a generator only, and a name is given a value neither in the source of
a loop nor when the loop uses the name itself.
-/

/-- Where an expression stands. -/
structure Place where
  inFunction : Bool := false
  /-- The comprehensions around, up to the next function: whether each is a generator, and the names
  its loops use. -/
  loops : List (Bool × List String) := []
  /-- Whether the source of a loop is around. -/
  inSource : Bool := false

namespace Place

/-- Whether a generator is around, up to the next function. -/
def inGenerator (p : Place) : Bool := p.loops.any Prod.fst

/-- Whether a loop around uses a name. -/
def uses (p : Place) (name : String) : Bool := p.loops.any fun loop => loop.2.contains name

/-- The place of a function's body. -/
def body (p : Place) : Place := { inFunction := true, inSource := p.inSource }

/-- The place of a loop's source. -/
def source (p : Place) : Place := { p with inSource := true }

/-- The place inside a comprehension. -/
def inside (p : Place) (isGenerator : Bool) (names : List String) : Place :=
  { p with loops := (isGenerator, names) :: p.loops }

end Place

namespace Expression

/-- The names that a target gives to values; `fuel` bounds its nesting. -/
def targetNames : (fuel : Nat) → Expression → List String
  | 0, _ => []
  | fuel + 1, e =>
    match e with
    | .name s => [s]
    | .tuple items => items.flatMap (targetNames fuel)
    | .list items => items.flatMap (targetNames fuel)
    | .starred e => targetNames fuel e
    | _ => []

/-- The expressions directly in an expression that opens no place of its own. -/
def parts : Expression → List Expression
  | .tuple items => items
  | .list items => items
  | .set items => items
  | .dict entries => entries.flatMap Entry.parts
  | .starred e => [e]
  | .member owner _ => [owner]
  | .subscript owner index => [owner, index]
  | .slice start stop step => start.toList ++ stop.toList ++ step.toList
  | .call callee arguments => callee :: arguments.map Argument.part
  | .unary _ e => [e]
  | .binary _ a b => [a, b]
  | .compare first rest => first :: rest.map Prod.snd
  | .both a b => [a, b]
  | .either a b => [a, b]
  | .conditional c a b => [c, a, b]
  | .formatted pieces => pieces.flatMap Piece.parts
  | _ => []

/-- Whether the parts of a comprehension stand at their places; the first source is outside. -/
def isComprehensionPlaced (check : Place → Expression → Bool) (names : Expression → List String)
    (p : Place) (isGenerator : Bool) (items : List Expression)
    (clauses : List (Clause Expression)) : Bool :=
  let inner := p.inside isGenerator (clauses.flatMap fun c => names c.target)
  let sources := match clauses.map Clause.source with
    | [] => true
    | first :: others => check p.source first && others.all (check inner.source)
  sources && (!(clauses.any (·.isAsync)) || inner.inGenerator) &&
    (clauses.all fun c => check inner c.target && c.conditions.all (check inner)) &&
    items.all (check inner)

/-- Whether all parts of an expression stand at their places; `fuel` bounds its nesting. -/
def isPlaced : (fuel : Nat) → Place → Expression → Bool
  | 0, _, _ => false
  | fuel + 1, p, e =>
    let comprehension := isComprehensionPlaced (isPlaced fuel) (targetNames fuel) p
    match e with
    | .lambda parameters body =>
      (parameters.defaults.all fun entry => isPlaced fuel p entry.2) && isPlaced fuel p.body body
    | .comprehension kind item clauses => comprehension (kind == .generator) [item] clauses
    | .dictComprehension key value clauses => comprehension false [key, value] clauses
    | .assigned given value => !p.inSource && !p.uses given && isPlaced fuel p value
    | .yielded value =>
      p.inFunction && p.loops.isEmpty && value.toList.all (isPlaced fuel p)
    | .awaited value => p.inGenerator && isPlaced fuel p value
    | e => e.parts.all (isPlaced fuel p)

/-- The expression that a text is, if all its parts stand at their places. -/
def read (s : List Char) : Option Expression := do
  let e ← ofText? s
  if isPlaced (s.length + 1) {} e then return e else none

end Expression
end Annotation
end BoundUpdate
