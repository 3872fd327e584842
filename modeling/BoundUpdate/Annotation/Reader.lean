import BoundUpdate.Annotation.Expression
import BoundUpdate.Annotation.Field
import BoundUpdate.Annotation.Token
import BoundUpdate.Text.Utf8

namespace BoundUpdate
namespace Annotation

/-!
# Reading annotations

Expressions are read from tokens by how tightly their operators bind.  One step
of reading is given a reader for the expressions inside the one that is read;
the length of the text bounds how deep they nest.
-/

/-- Reads something from the front of tokens. -/
abbrev Reader := StateT (List Token) Option

/-- How tightly an expression's outermost operator binds at least. -/
abbrev Strength := Nat

namespace Strength

def expression : Strength := 0
def disjunction : Strength := 1
def conjunction : Strength := 2
def negation : Strength := 3
def comparison : Strength := 4
def bitOr : Strength := 5
def sign : Strength := 11
def operand : Strength := 12

end Strength

/-- A reader for expressions of at least a strength. -/
abbrev Inner := Strength → Reader Expression

namespace Reader

/-! ## Single tokens -/

/-- Whether a symbol comes next. -/
def isNext (symbol : String) : Reader Bool := do return (← get).head? == some (.symbol symbol)

/-- Whether a word comes next. -/
def isWordNext (word : String) : Reader Bool := do return (← get).head? == some (.name word)

/-- Drop the next token. -/
def skip : Reader Unit := modify (List.drop 1)

/-- Take a symbol, if it comes next. -/
def accept (symbol : String) : Reader Bool := do
  if ← isNext symbol then skip; return true
  else return false

/-- Take a word, if it comes next. -/
def acceptWord (word : String) : Reader Bool := do
  if ← isWordNext word then skip; return true
  else return false

/-- Take a symbol that must come next. -/
def expect (symbol : String) : Reader Unit := do
  if ← accept symbol then return () else failure

/-- Take a word that must come next. -/
def expectWord (word : String) : Reader Unit := do
  if ← acceptWord word then return () else failure

/-- The words that are no names. -/
def reserved : List String :=
  ["False", "None", "True", "and", "as", "assert", "async", "await", "break", "class", "continue",
   "def", "del", "elif", "else", "except", "finally", "for", "from", "global", "if", "import",
   "in", "is", "lambda", "nonlocal", "not", "or", "pass", "raise", "return", "try", "while",
   "with", "yield"]

/-- Take a name that must come next. -/
def name : Reader String := do
  match (← get).head? with
  | some (.name s) => if reserved.contains s then failure else do skip; return s
  | _ => failure

/-- A name that may be given to a value. -/
def freeName : Reader String := do
  let s ← name
  if s = "__debug__" then failure else return s

/-- How many tokens are left. -/
def remaining : Reader Nat := do return (← get).length

/-- Items between commas up to a closing symbol, and whether there was a comma. -/
def items {α : Type} (close : String) (item : Reader α) : (fuel : Nat) → Reader (List α × Bool)
  | 0 => failure
  | fuel + 1 => do
    if ← accept close then return ([], false)
    let a ← item
    if ← accept "," then
      let (others, _) ← items close item fuel
      return (a :: others, true)
    expect close
    return ([a], false)

/-- Something that is read again and again as long as a condition holds. -/
def whileNext {α : Type} (condition : Reader Bool) (item : Reader α) :
    (fuel : Nat) → Reader (List α)
  | 0 => return []
  | fuel + 1 => do
    if ← condition then
      let a ← item
      return a :: (← whileNext condition item fuel)
    else return []

/-! ## Parts of expressions -/

/-- A value that may be given a name, and whether it is. -/
def namedValue (inner : Inner) : Reader (Expression × Bool) := do
  match ← get with
  | .name _ :: .symbol ":=" :: _ =>
    let s ← freeName
    skip
    return (.assigned s (← inner .expression), true)
  | _ => return (← inner .expression, false)

/-- An item of a display: a value that may be given a name, or the items of a value; and whether it
is a plain expression. -/
def displayItem (inner : Inner) : Reader (Expression × Bool) := do
  if ← accept "*" then return (.starred (← inner .bitOr), false)
  let (e, isAssigned) ← namedValue inner
  return (e, !isAssigned)

/-- An item of a display. -/
def item (inner : Inner) : Reader Expression := do return (← displayItem inner).1

/-- Whether an expression is starred. -/
def isStarred : Expression → Bool
  | .starred _ => true
  | _ => false

/-- Whether values can be handed to an expression; `fuel` bounds its nesting. -/
def isTarget : (fuel : Nat) → Expression → Bool
  | 0, _ => false
  | fuel + 1, e =>
    let areTargets := fun (items : List Expression) =>
      (items.filter isStarred).length ≤ 1 && items.all fun e =>
        match e with
        | .starred e => isTarget fuel e
        | e => isTarget fuel e
    match e with
    | .name s => s != "__debug__"
    | .member _ s => s != "__debug__"
    | .subscript .. => true
    | .tuple items => areTargets items
    | .list items => areTargets items
    | _ => false

/-- What a loop hands its items to. -/
def target (inner : Inner) : Reader Expression := do
  let part : Reader Expression := do
    if ← accept "*" then return .starred (← inner .bitOr) else inner .bitOr
  let n ← remaining
  let first ← part
  let e ← if ← isNext "," then
      let others ← whileNext (accept ",") (do
        if ← isWordNext "in" then return none else return some (← part)) n
      pure (.tuple (first :: others.filterMap id))
    else pure first
  if isTarget n e then return e else failure

/-- A loop of a comprehension. -/
def clause (inner : Inner) : Reader (Clause Expression) := do
  let isAsync ← acceptWord "async"
  expectWord "for"
  let target ← target inner
  expectWord "in"
  let source ← inner .disjunction
  let conditions ← whileNext (acceptWord "if") (inner .disjunction) (← remaining)
  return { isAsync, target, source, conditions }

/-- Whether a loop comes next. -/
def isClauseNext : Reader Bool := do return (← isWordNext "for") || (← isWordNext "async")

/-- The loops of a comprehension. -/
def clauses (inner : Inner) : Reader (List (Clause Expression)) := do
  whileNext isClauseNext (clause inner) (← remaining)

/-- A value that a function hands out, after its word. -/
def yieldedValue (inner : Inner) (close : String) : Reader Expression := do
  if ← acceptWord "from" then return .yielded (some (← inner .expression))
  if ← isNext close then return .yielded none
  let part : Reader Expression := do
    if ← accept "*" then return .starred (← inner .bitOr) else inner .expression
  let first ← part
  if ← isNext "," then
    let others ← whileNext (accept ",") (do
      if ← isNext close then return none else return some (← part)) (← remaining)
    return .yielded (some (.tuple (first :: others.filterMap id)))
  if isStarred first then failure else return .yielded (some first)

/-- What stands between parentheses: a tuple, a generator or a single expression. -/
def parenthesized (inner : Inner) : Reader Expression := do
  if ← accept ")" then return .tuple []
  if ← acceptWord "yield" then
    let e ← yieldedValue inner ")"
    expect ")"
    return e
  let first ← item inner
  if ← accept "," then
    let (others, _) ← items ")" (item inner) (← remaining)
    return .tuple (first :: others)
  if isStarred first then failure
  if ← isClauseNext then
    let loops ← clauses inner
    expect ")"
    return .comprehension .generator first loops
  expect ")"
  return first

/-- What stands between brackets: a list or a comprehension. -/
def bracketed (inner : Inner) : Reader Expression := do
  if ← accept "]" then return .list []
  let first ← item inner
  if ← accept "," then
    let (others, _) ← items "]" (item inner) (← remaining)
    return .list (first :: others)
  if !isStarred first && (← isClauseNext) then
    let loops ← clauses inner
    expect "]"
    return .comprehension .list first loops
  expect "]"
  return .list [first]

/-- An entry of a dictionary. -/
def entry (inner : Inner) : Reader (Entry Expression) := do
  if ← accept "**" then return .spread (← inner .bitOr)
  let key ← inner .expression
  expect ":"
  return .pair key (← inner .expression)

/-- What stands between braces: a dictionary, a set or a comprehension. -/
def braced (inner : Inner) : Reader Expression := do
  if ← isNext "\x7d" then skip; return .dict []
  if ← isNext "**" then
    let (entries, _) ← items "\x7d" (entry inner) (← remaining)
    return .dict entries
  let (first, isPlain) ← displayItem inner
  if isPlain && (← accept ":") then
    let value ← inner .expression
    if ← accept "," then
      let (others, _) ← items "\x7d" (entry inner) (← remaining)
      return .dict (.pair first value :: others)
    if ← isClauseNext then
      let loops ← clauses inner
      expect "\x7d"
      return .dictComprehension first value loops
    expect "\x7d"
    return .dict [.pair first value]
  if ← accept "," then
    let (others, _) ← items "\x7d" (item inner) (← remaining)
    return .set (first :: others)
  if !isStarred first && (← isClauseNext) then
    let loops ← clauses inner
    expect "\x7d"
    return .comprehension .set first loops
  expect "\x7d"
  return .set [first]

/-! ## Texts -/

/-- The quotations at the front of the tokens. -/
def quotations : Reader (List Quotation) := do
  let ts ← get
  let qs := ts.map fun t => match t with | .quotation q => some q | _ => none
  let front := (qs.takeWhile Option.isSome).filterMap id
  set (ts.drop front.length)
  return front

/-- Expressions between commas, as one expression. -/
def openTuple (inner : Inner) : Reader Expression := do
  let part : Reader Expression := do
    if ← accept "*" then return .starred (← inner .bitOr) else inner .expression
  let first ← part
  if ← isNext "," then
    let others ← whileNext (accept ",") (do
      if (← get).isEmpty then return none else return some (← part)) (← remaining)
    return .tuple (first :: others.filterMap id)
  if isStarred first then failure else return first

/-- The expression of a field. -/
def embedded (inner : Inner) (s : List Char) : Option Expression := do
  let ts ← tokens ('(' :: s ++ [')'])
  let (e, rest) ← (openTuple inner).run ts
  if rest.isEmpty then return e else none

/-- A piece of a formatted text; `fuel` bounds the nesting of formats. -/
def piece (inner : Inner) (q : Quotation) : (fuel : Nat) → RawPiece → Option (Piece Expression)
  | 0, _ => none
  | fuel + 1, raw =>
    match raw with
    | .plain s => some (.text (String.ofList s))
    | .escaped s => (q.spelled s).map fun s => .text (String.ofList s)
    | .field expression conversion format => do
      let e ← embedded inner expression
      let format ← format.mapM (piece inner q fuel)
      return .value e conversion format

/-- The pieces of a quotation. -/
def pieces (inner : Inner) (q : Quotation) : Option (List (Piece Expression)) := do
  if q.isFormatted then (← q.pieces).mapM (piece inner q 4)
  else return [.text (String.ofList (← q.spelled q.body))]

/-- The text of pieces without values. -/
def plainText? : List (Piece Expression) → Option String
  | [] => some ""
  | .text s :: rest => (plainText? rest).map (s ++ ·)
  | .value .. :: _ => none

/-- The value of adjacent quotations: they make one text or one run of bytes. -/
def quoted (inner : Inner) (qs : List Quotation) : Option Expression := do
  if qs.all (·.isBytes) then
    let parts ← qs.mapM fun q => q.spelled q.body
    return .literal (.bytes (parts.flatten.map fun c => UInt8.ofNat c.toNat))
  else if qs.any (·.isBytes) then none
  else
    let ps := (← qs.mapM (pieces inner)).flatten
    match plainText? ps with
    | some s => return .literal (.text s)
    | none => return .formatted ps

/-! ## Operands -/

/-- An expression without operators. -/
def atom (inner : Inner) : Reader Expression := do
  match (← get).head? with
  | some (.quotation _) => do
    match quoted inner (← quotations) with
    | some e => return e
    | none => failure
  | some (.numeral n) =>
    skip
    return .literal (match n with
      | .integer n => .integer n
      | .real x => .real x
      | .imaginary x => .imaginary x)
  | some (.symbol s) =>
    skip
    if s = "(" then parenthesized inner
    else if s = "[" then bracketed inner
    else if s = "\x7b" then braced inner
    else if s = "..." then return .literal .ellipsis
    else failure
  | some (.name s) =>
    if s = "None" then skip; return .literal .nothing
    else if s = "True" then skip; return .literal (.truth true)
    else if s = "False" then skip; return .literal (.truth false)
    else return .name (← name)
  | _ => failure

/-- A bound of a slice, which may be left out. -/
def bound (inner : Inner) : Reader (Option Expression) := do
  if (← isNext ":") || (← isNext ",") || (← isNext "]") then return none
  else return some (← inner .expression)

/-- An index: a slice, the items of a value, or a value that may be given a name. -/
def index (inner : Inner) : Reader Expression := do
  if ← accept "*" then return .starred (← inner .expression)
  let start ← if ← isNext ":" then pure none
    else do
      let (e, isAssigned) ← namedValue inner
      if isAssigned then return e
      pure (some e)
  match start, ← accept ":" with
  | some e, false => return e
  | none, false => failure
  | start, true =>
    let stop ← bound inner
    let step ← if ← accept ":" then bound inner else pure none
    return .slice start stop step

/-- The index between brackets; several ones, or the items of a value, make a tuple. -/
def subscript (inner : Inner) : Reader Expression := do
  let (parts, hasComma) ← items "]" (index inner) (← remaining)
  match parts, hasComma with
  | [], _ => failure
  | [e], false => return if isStarred e then .tuple [e] else e
  | es, _ => return .tuple es

/-- How far the arguments of a call have come: after a named argument no plain one may follow, and
after spread entries no spread items either. -/
inductive Stage where
  | plain
  | named
  | entries
  deriving DecidableEq

/-- The arguments of a call up to the closing parenthesis: a generator alone, or several ones. -/
def arguments (inner : Inner) :
    (fuel : Nat) → Stage → (isFirst : Bool) → Reader (List (Argument Expression))
  | 0, _, _ => failure
  | fuel + 1, stage, isFirst => do
    if ← accept ")" then return []
    let (argument, stage) ← match ← get with
      | .symbol "*" :: _ =>
        if stage = .entries then failure
        skip
        pure (Argument.spread (← inner .expression), stage)
      | .symbol "**" :: _ =>
        skip
        pure (.spreadEntries (← inner .expression), .entries)
      | .name _ :: .symbol "=" :: _ =>
        let s ← freeName
        skip
        pure (.named s (← inner .expression), if stage = .plain then .named else stage)
      | _ =>
        if stage ≠ .plain then failure
        let (e, _) ← namedValue inner
        if isFirst && (← isClauseNext) then
          let loops ← clauses inner
          expect ")"
          return [.positional (.comprehension .generator e loops)]
        pure (.positional e, stage)
    if ← accept "," then return argument :: (← arguments inner fuel stage false)
    expect ")"
    return [argument]

/-- Whether no name occurs twice. -/
def areDistinct : List String → Bool
  | [] => true
  | s :: rest => !rest.contains s && areDistinct rest

/-- The arguments of a call, without repeated names. -/
def callArguments (inner : Inner) : Reader (List (Argument Expression)) := do
  let args ← arguments inner ((← remaining) + 1) .plain true
  let names := args.filterMap fun a => match a with | .named s _ => some s | _ => none
  if areDistinct names then return args else failure

/-- What follows an operand without an operator: members, indexes and calls. -/
def trailers (inner : Inner) : (fuel : Nat) → Expression → Reader Expression
  | 0, _ => failure
  | fuel + 1, e => do
    if ← accept "." then trailers inner fuel (.member e (← name))
    else if ← accept "[" then trailers inner fuel (.subscript e (← subscript inner))
    else if ← accept "(" then trailers inner fuel (.call e (← callArguments inner))
    else return e

/-- An operand, with the operators in front of it and powers after it. -/
def operand (inner : Inner) (strength : Strength) : Reader Expression := do
  let signed := fun (operator : UnaryOperator) => do
    skip
    return Expression.unary operator (← inner .sign)
  match (← get).head? with
  | some (.name "not") =>
    if strength ≤ Strength.negation then
      skip
      return .unary .no (← inner .negation)
    else failure
  | some (.symbol "-") => if strength ≤ Strength.sign then signed .minus else failure
  | some (.symbol "+") => if strength ≤ Strength.sign then signed .plus else failure
  | some (.symbol "~") => if strength ≤ Strength.sign then signed .invert else failure
  | some (.name "await") =>
    skip
    let e ← trailers inner ((← remaining) + 1) (← atom inner)
    if ← accept "**" then return .binary .power (.awaited e) (← inner .sign)
    else return .awaited e
  | _ =>
    let e ← trailers inner ((← remaining) + 1) (← atom inner)
    if ← accept "**" then return .binary .power e (← inner .sign)
    else return e

/-! ## Operators -/

/-- The operator of a symbol, and how tightly it binds. -/
def binary? (symbol : String) : Option (BinaryOperator × Strength) :=
  ([("|", .bitOr, 5), ("^", .bitXor, 6), ("&", .bitAnd, 7), ("<<", .shiftLeft, 8),
    (">>", .shiftRight, 8), ("+", .add, 9), ("-", .subtract, 9), ("*", .multiply, 10),
    ("/", .divide, 10), ("//", .divideFloor, 10), ("%", .modulo, 10),
    ("@", .multiplyMatrices, 10)] : List (String × BinaryOperator × Strength)).lookup symbol

/-- The comparison at the front of tokens, and the tokens after it. -/
def comparison? : List Token → Option (Comparison × List Token)
  | .name "in" :: rest => some (.member, rest)
  | .name "not" :: .name "in" :: rest => some (.notMember, rest)
  | .name "is" :: .name "not" :: rest => some (.notSame, rest)
  | .name "is" :: rest => some (.same, rest)
  | .symbol s :: rest =>
    (([("==", .equal), ("!=", .unequal), ("<", .less), ("<=", .lessEqual), (">", .greater),
      (">=", .greaterEqual)] : List (String × Comparison)).lookup s).map fun c => (c, rest)
  | _ => none

/-- The comparisons after an operand. -/
def comparisons (inner : Inner) : (fuel : Nat) → Reader (List (Comparison × Expression))
  | 0 => return []
  | fuel + 1 => do
    match comparison? (← get) with
    | none => return []
    | some (c, rest) =>
      set rest
      let e ← inner .bitOr
      return (c, e) :: (← comparisons inner fuel)

/-- The operators and operands to the right of an operand. -/
def right (inner : Inner) (strength : Strength) : (fuel : Nat) → Expression → Reader Expression
  | 0, _ => failure
  | fuel + 1, left => do
    let ts ← get
    match ts.head? with
    | some (.name "or") =>
      if strength ≤ Strength.disjunction then
        skip
        right inner strength fuel (.either left (← inner .conjunction))
      else return left
    | some (.name "and") =>
      if strength ≤ Strength.conjunction then
        skip
        right inner strength fuel (.both left (← inner .negation))
      else return left
    | some (.symbol s) =>
      match binary? s with
      | some (operator, n) =>
        if strength ≤ n then
          skip
          right inner strength fuel (.binary operator left (← inner (n + 1)))
        else return left
      | none =>
        if strength ≤ Strength.comparison && (comparison? ts).isSome then
          right inner strength fuel (.compare left (← comparisons inner fuel))
        else return left
    | _ =>
      if strength ≤ Strength.comparison && (comparison? ts).isSome then
        right inner strength fuel (.compare left (← comparisons inner fuel))
      else return left

/-! ## Functions -/

/-- How far the parameters of a function have come. -/
structure Listing where
  parameters : Parameters Expression := {}
  /-- Whether the positional parameters are over. -/
  isNamed : Bool := false
  /-- Whether a parameter must follow because nothing takes the surplus. -/
  isBare : Bool := false

/-- A parameter added to a list of parameters. -/
def Listing.add (l : Listing) (name : String) (value : Option Expression) : Option Listing :=
  let p := l.parameters
  if l.isNamed then
    some { l with parameters := { p with named := p.named ++ [(name, value)] }, isBare := false }
  else if value.isNone && p.positional.any fun entry => entry.2.isSome then none
  else some { l with parameters := { p with positional := p.positional ++ [(name, value)] } }

/-- A parameter, or one of the signs between parameters. -/
def parameter (inner : Inner) (l : Listing) : Reader Listing := do
  let p := l.parameters
  if p.others.isSome then failure
  if ← accept "/" then
    if l.isNamed || p.unnamed != 0 || p.positional.isEmpty then failure
    return { l with parameters := { p with unnamed := p.positional.length } }
  if ← accept "**" then
    if l.isBare then failure
    return { l with parameters := { p with others := some (← freeName) } }
  if ← accept "*" then
    if l.isNamed then failure
    match (← get).head? with
    | some (.name _) =>
      return { l with parameters := { p with rest := some (← freeName) }, isNamed := true }
    | _ => return { l with isNamed := true, isBare := true }
  let s ← freeName
  let value ← if ← accept "=" then some <$> inner .expression else pure none
  match l.add s value with
  | some l => return l
  | none => failure

/-- The parameters of a function up to the colon. -/
def parameters (inner : Inner) : (fuel : Nat) → Listing → Reader Listing
  | 0, _ => failure
  | fuel + 1, l => do
    if ← accept ":" then return l
    let l ← parameter inner l
    if ← accept "," then parameters inner fuel l
    else
      expect ":"
      return l

/-- A function, after its word. -/
def function (inner : Inner) : Reader Expression := do
  let l ← parameters inner ((← remaining) + 1) {}
  if l.isBare || !areDistinct l.parameters.names then failure
  return .lambda l.parameters (← inner .expression)

/-! ## Expressions -/

/-- One step of reading an expression of at least a strength. -/
def step (inner : Inner) (strength : Strength) : Reader Expression := do
  if strength = Strength.expression then
    if ← acceptWord "lambda" then function inner
    else
      let e ← inner .disjunction
      if ← acceptWord "if" then
        let condition ← inner .disjunction
        expectWord "else"
        return .conditional condition e (← inner .expression)
      else return e
  else
    let e ← operand inner strength
    right inner strength ((← remaining) + 1) e

/-- An expression of at least a strength; `fuel` bounds the nesting. -/
def expressionWithin : (fuel : Nat) → Inner
  | 0 => fun _ => failure
  | fuel + 1 => step (expressionWithin fuel)

/-- Expressions between commas up to the end. -/
def whole (inner : Inner) : Reader Expression := do
  let n ← remaining
  let first ← inner .expression
  if ← isNext "," then
    let others ← whileNext (accept ",") (do
      match (← get).head? with
      | none => return none
      | some .newline => return none
      | _ => return some (← inner .expression)) n
    return .tuple (first :: others.filterMap id)
  return first

end Reader

/-- The expression that a text is, by its tokens.  Every level of nesting takes at most eight
steps. -/
def Expression.ofText? (s : List Char) : Option Expression := do
  let ts ← tokens s
  let (e, rest) ← (Reader.whole (Reader.expressionWithin (8 * s.length + 8))).run ts
  if rest.all (· == .newline) then return e else none

end Annotation
end BoundUpdate
