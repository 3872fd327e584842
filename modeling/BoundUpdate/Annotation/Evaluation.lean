import BoundUpdate.Annotation.Calls

namespace BoundUpdate
namespace Annotation

/-!
# Evaluating annotations

An expression is evaluated to its meaning from left to right.  One step is given
a machine for the expressions inside; a machine of a depth is made from one of
the depth below, and what nests too deeply fails.
-/

/-- What a spelled out value means. -/
def Literal.meaning : Literal → Meaning
  | .nothing => .nothing
  | .truth b => .truth b
  | .ellipsis => .ellipsis
  | .integer n => .integer n
  | .real x => .real x
  | .imaginary x => .complex (.zero false) x
  | .text s => .text s
  | .bytes bs => .bytes bs false

namespace Machine

/-! ## Names and items -/

/-- What a name means. -/
def valueOfName (name : String) : Evaluation Meaning := do
  match (← get).find? name <|> named? name with
  | some m => return m
  | none => throw (.elementary .unknownName ("name '" ++ name ++ "' is not defined"))

/-- The meanings of items; a starred one stands for the items of its value. -/
def itemsOf (k : Machine) : List Expression → Evaluation (List Meaning)
  | [] => return []
  | .starred e :: rest => do
    let items ← k.items (← k.evaluate e)
    return items ++ (← k.itemsOf rest)
  | e :: rest => do
    let m ← k.evaluate e
    return m :: (← k.itemsOf rest)

/-- Whether a value counts as true; a class that an expression made may decide itself. -/
def isTrue (k : Machine) (m : Meaning) : Evaluation Bool := do
  match m with
  | .object c _ =>
    match c.madeMember? "__bool__", c.madeMember? "__len__" with
    | some f, _ =>
      match ← k.call f { positional := [m] } with
      | .truth b => return b
      | _ => Evaluated.misfit "__bool__ should return bool"
    | none, some f => return (← k.call f { positional := [m] }).isTruthy
    | none, none => return m.isTruthy
  | m => return m.isTruthy

/-! ## Targets and loops -/

/-- The values for targets of which one may be starred; `none` when they do not fit. -/
def shared (targets : List Expression) (items : List Meaning) :
    Option (List (Expression × Meaning)) :=
  let before := targets.takeWhile fun t => !(t matches .starred _)
  match targets.drop before.length with
  | [] => if items.length = targets.length then some (targets.zip items) else none
  | star :: behind =>
    if items.length < before.length + behind.length then none
    else
      let middle := (items.drop before.length).take (items.length - before.length - behind.length)
      let inner := match star with
        | .starred e => e
        | e => e
      some (before.zip items ++ (inner, .list middle) ::
        behind.zip (items.drop (items.length - behind.length)))

/-- Give a value to a target; `fuel` bounds its nesting. -/
def bindTarget (k : Machine) : (fuel : Nat) → Expression → Meaning → Evaluation Unit
  | 0, _, _ => return ()
  | fuel + 1, target, m => do
    match target with
    | .name name => modify fun s => s.bindLoop name m
    | .tuple targets => unpack fuel targets m
    | .list targets => unpack fuel targets m
    | .member owner name =>
      match ← k.evaluate owner with
      | .unknown => return ()
      | .made .. => return ()
      | .lambda .. => return ()
      | o => let _ : Meaning ← (Evaluated.lacking o name : Evaluated Meaning)
    | .subscript owner index =>
      let _ ← k.evaluate owner
      let _ ← k.evaluate index
    | _ => return ()
where
  /-- Give the items of a value to targets. -/
  unpack (fuel : Nat) (targets : List Expression) (m : Meaning) : Evaluation Unit := do
    match shared targets (← k.items m) with
    | some pairs => pairs.forM fun (t, m) => bindTarget k fuel t m
    | none => Evaluated.invalid "wrong number of values to unpack"

/-- Whether all conditions of a loop hold, tried in order. -/
def allHold (k : Machine) : List Expression → Evaluation Bool
  | [] => return true
  | e :: rest => do
    if ← k.isTrue (← k.evaluate e) then k.allHold rest else return false

/-- What the body of loops collects; the items of the first loop may be known. -/
def loops {α : Type} (k : Machine) (body : Evaluation α) :
    (first : Option (List Meaning)) → List (Clause Expression) → Evaluation (List α)
  | _, [] => do return [← body]
  | first, c :: rest => do
    let items ← match first with
      | some items => pure items
      | none => do k.items (← k.evaluate c.source)
    let collected ← items.mapM fun m => do
      k.bindTarget 20 c.target m
      if ← k.allHold c.conditions then k.loops body none rest else return []
    return collected.flatten

/-- What the body of a comprehension collects in a frame of its own; the first source is evaluated
outside of it. -/
def comprehended {α : Type} (k : Machine) (body : Evaluation α)
    (clauses : List (Clause Expression)) : Evaluation (List α) := do
  let first ← match clauses with
    | c :: _ => do k.items (← k.evaluate c.source)
    | [] => pure []
  Evaluation.inside { isComprehension := true, names := [] } (k.loops body (some first) clauses)

/-- The items of a generator. -/
def generated (k : Machine) (item : Expression) (clauses : List (Clause Expression))
    (source : Meaning) (captured : List (String × Meaning)) : Evaluation (List Meaning) := do
  let around : List Frame :=
    if captured.isEmpty then [] else [{ isComprehension := false, names := captured }]
  Evaluation.within ({ isComprehension := true, names := [] } :: around)
    (k.loops (k.evaluate item) (some (Method.held source)) clauses)

/-- The items that running through a value gives. -/
def itemsOfValue (k : Machine) (m : Meaning) : Evaluation (List Meaning) := do
  match m with
  | .generator item clauses source captured => k.generated item clauses source captured
  | .object (.type kind) (kept :: sources) =>
    match Construction.waitingItems? k kind kept sources with
    | some items => items
    | none => return (← ofHolder m)
  | m =>
    match m.classOf.madeMember? "__iter__" with
    | some f => do k.items (← k.call f { positional := [m] })
    | none => return (← ofHolder m)
where
  /-- The items that a value holds. -/
  ofHolder (m : Meaning) : Evaluated (List Meaning) :=
    match m.items?, m with
    | some items, .applied .. => do
      let _ ← Meaning.typeOf "Unpack accepts only single type." m
      return items
    | some items, _ => .ok items
    | none, _ => Evaluated.misfit ("'" ++ m.typeName ++ "' object is not iterable")

/-! ## Expressions -/

/-- The arguments of a call. -/
def argumentsOf (k : Machine) : List (Argument Expression) → Evaluation Arguments
  | [] => return { positional := [] }
  | a :: rest => do
    match a with
    | .positional e =>
      let m ← k.evaluate e
      let others ← k.argumentsOf rest
      return { others with positional := m :: others.positional }
    | .spread e =>
      let items ← k.items (← k.evaluate e)
      let others ← k.argumentsOf rest
      return { others with positional := items ++ others.positional }
    | .named name e =>
      let m ← k.evaluate e
      let others ← k.argumentsOf rest
      return { others with named := (name, m) :: others.named }
    | .spreadEntries e =>
      let entries ← match ← k.evaluate e with
        | .dict _ entries => pure entries
        | .unknown => pure []
        | _ => Evaluated.misfit "argument after ** must be a mapping"
      let named ← entries.mapM fun (key, m) =>
        (match key with
          | .text name => .ok (name, m)
          | _ => Evaluated.misfit "keywords must be strings" : Evaluated (String × Meaning))
      let others ← k.argumentsOf rest
      return { others with named := named ++ others.named }

/-- Whether a name is given to two arguments. -/
def isRepeated (a : Arguments) : Bool :=
  a.named.any fun e => (a.named.filter fun f => f.1 == e.1).length > 1

/-- The entries of a dictionary that is spelled out. -/
def entriesOf (k : Machine) :
    List (Entry Expression) → List (Meaning × Meaning) → Evaluation (List (Meaning × Meaning))
  | [], entries => return entries
  | .pair key value :: rest, entries => do
    let key ← k.evaluate key
    let value ← k.evaluate value
    if key.isKey then k.entriesOf rest (Meaning.withEntry entries key value)
    else Evaluated.misfit "unhashable key"
  | .spread e :: rest, entries => do
    match ← k.evaluate e with
    | .dict _ others => k.entriesOf rest (Meaning.merged entries others)
    | .unknown => k.entriesOf rest entries
    | _ => Evaluated.misfit "object is not a mapping"

/-- The text of pieces; a format is made of pieces itself, and `fuel` bounds its nesting. -/
def textOfPieces (k : Machine) : (fuel : Nat) → List (Piece Expression) → Evaluation String
  | 0, _ => return ""
  | _, [] => return ""
  | fuel + 1, .text s :: rest => do return s ++ (← k.textOfPieces fuel rest)
  | fuel + 1, .value e conversion format :: rest => do
    let m ← Meaning.convertedBy conversion (← k.evaluate e)
    let shown ← Meaning.formatted m (← k.textOfPieces fuel format)
    return shown ++ (← k.textOfPieces fuel rest)

/-- The member of a class that an expression made, in the place of an operation of its
instances. -/
def madeFor? (m : Meaning) (name : String) : Option Meaning :=
  match m with
  | .object (.made given bases members) _ => (Meaning.made given bases members).madeMember? name
  | _ => none

/-- Whether a comparison holds; a class that an expression made may decide itself what its
instances hold. -/
def holds (k : Machine) (c : Comparison) (a b : Meaning) : Evaluation Bool := do
  if c = .member ∨ c = .notMember then
    match madeFor? b "__contains__" with
    | some f =>
      let isMember := (← k.call f { positional := [b, a] }).isTruthy
      return if c = .member then isMember else !isMember
    | none => return (← Meaning.compared c a b (.ok (← k.items b)))
  else return (← Meaning.compared c a b (.ok []))

/-- A chain of comparisons, given the value of the first operand: it ends at the first one that
does not hold. -/
def chain (k : Machine) (m : Meaning) : List (Comparison × Expression) → Evaluation Meaning
  | [] => return .truth true
  | (c, e) :: rest => do
    let other ← k.evaluate e
    if ← k.holds c m other then k.chain other rest else return .truth false

/-- An owner applied to an index. -/
def indexed (k : Machine) (owner index : Meaning) : Evaluation Meaning := do
  match madeFor? owner "__getitem__" with
  | some f => k.call f { positional := [owner, index] }
  | none =>
    match owner with
    | .made name bases members =>
      match owner.madeMember? "__class_getitem__" with
      | some f => k.call f { positional := [.made name bases members, index] }
      | none => return (← Meaning.subscripted owner index)
    | owner => return (← Meaning.subscripted owner index)

/-- The meaning of a part that may be left out. -/
def optional (k : Machine) : Option Expression → Evaluation Meaning
  | none => return .nothing
  | some e => k.evaluate e

/-- Whether a generator waits for its items. -/
def waits (item : Expression) (clauses : List (Clause Expression)) : Bool :=
  clauses.any (·.isAsync) || (item matches .awaited _)

/-- Whether an expression is spelled as one value. -/
def isSpelled : Expression → Bool
  | .literal _ => true
  | .unary _ (.literal _) => true
  | _ => false

/-- The order of the integers in a set that is spelled out: more than two values are taken at
once. -/
def placesOf (items : List Expression) : List Int → List Int :=
  if 2 < items.length && items.all isSpelled then Number.inPlacesAtOnce else Number.inPlaces

/-- The meaning of an expression, one step. -/
def step (k : Machine) (e : Expression) : Evaluation Meaning := do
  match e with
  | .literal l => return l.meaning
  | .name name => valueOfName name
  | .tuple items => return .tuple (← k.itemsOf items)
  | .list items => return .list (← k.itemsOf items)
  | .set items => do
    return (← Construction.placedSet (placesOf items) false (← k.itemsOf items))
  | .dict entries => return .dict "dict" (← k.entriesOf entries [])
  | .starred e => k.evaluate e
  | .member owner name => do return (← Meaning.memberOf (← k.evaluate owner) name)
  | .subscript owner index => do
    let owner ← k.evaluate owner
    k.indexed owner (← k.evaluate index)
  | .slice start stop step =>
    return .slice (← k.optional start) (← k.optional stop) (← k.optional step)
  | .call callee arguments => do
    let m ← k.evaluate callee
    let a ← k.argumentsOf arguments
    if isRepeated a then Evaluated.misfit "got multiple values for keyword argument"
    else k.call m a
  | .unary .no operand => do return .truth !(← k.isTrue (← k.evaluate operand))
  | .unary operator operand => do return (← Meaning.unary operator (← k.evaluate operand))
  | .binary operator left right => do
    let a ← k.evaluate left
    let b ← k.evaluate right
    return (← Meaning.binary operator a b)
  | .compare first rest => do k.chain (← k.evaluate first) rest
  | .both left right => do
    let m ← k.evaluate left
    if ← k.isTrue m then k.evaluate right else return m
  | .either left right => do
    let m ← k.evaluate left
    if ← k.isTrue m then return m else k.evaluate right
  | .conditional condition yes no => do
    if ← k.isTrue (← k.evaluate condition) then k.evaluate yes else k.evaluate no
  | .lambda parameters body => do
    let defaults ← parameters.defaults.mapM fun (name, e) => do return (name, ← k.evaluate e)
    return .lambda parameters defaults body (← get).captured
  | .comprehension .generator item clauses => do
    let source ← match clauses with
      | c :: _ => k.evaluate c.source
      | [] => pure (.tuple [])
    if waits item clauses then return Meaning.instanceOf "async_generator" []
    else return .generator item clauses (.list (← k.items source)) (← get).captured
  | .comprehension .list item clauses => do
    return .list (← k.comprehended (k.evaluate item) clauses)
  | .comprehension .set item clauses => do
    return (← Construction.setOf false (← k.comprehended (k.evaluate item) clauses))
  | .dictComprehension key value clauses => do
    let pair : Evaluation (Meaning × Meaning) := do
      let key ← k.evaluate key
      let value ← k.evaluate value
      if key.isKey then return (key, value) else Evaluated.misfit "unhashable key"
    return .dict "dict" (Meaning.merged [] (← k.comprehended pair clauses))
  | .assigned name value => do
    let m ← k.evaluate value
    modify fun s => s.assign name m
    return m
  | .formatted pieces => return .text (← k.textOfPieces (pieces.length + 200) pieces)
  | .yielded _ => return .unknown
  | .awaited _ => return .unknown

/-- A machine for expressions whose parts nest up to a depth, given how bodies of functions are
evaluated. -/
def nested (enter : Expression → Evaluation Meaning) : (depth : Nat) → Machine
  | 0 =>
    { evaluate := fun _ => Evaluated.tooDeep
      call := fun _ _ => Evaluated.tooDeep
      items := fun _ => Evaluated.tooDeep
      enter }
  | depth + 1 =>
    { evaluate := fun e => (nested enter depth).step e
      call := fun m a => (nested enter depth).callOf m a
      items := fun m => (nested enter depth).itemsOfValue m
      enter }

/-- The meaning of an expression whose parts nest up to a depth, where a number of functions may be
called inside one another. -/
def meaningWithin (depth : Nat) : (calls : Nat) → Expression → Evaluation Meaning
  | 0, _ => Evaluated.tooDeep
  | calls + 1, e => (nested (meaningWithin depth calls) depth).evaluate e

end Machine

/-- How many functions may be called inside one another. -/
def callLimit : Nat := 980

/-- How deep parts of an expression may nest, besides what its text makes them nest. -/
def ownDepth : Nat := 300

/-- How deep the text of an expression may make its parts nest. -/
def textDepth : Nat := 2650

/-- The meaning of an expression that a text of a given length spells. -/
def evaluate (e : Expression) (length : Nat) : Evaluation Meaning :=
  Machine.meaningWithin (ownDepth + min length textDepth) callLimit e

end Annotation
end BoundUpdate
