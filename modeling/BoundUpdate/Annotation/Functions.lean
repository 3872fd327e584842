import BoundUpdate.Annotation.MethodTable

namespace BoundUpdate
namespace Annotation

/-!
# Functions

The functions that annotations may call without an instance: those open to all,
and those of the libraries.  A function whose result does not matter for the
meaning of an annotation gives a value of which nothing is known.
-/

/-- A function of arguments. -/
abbrev Routine := Maker

namespace Routine

open Construction (taking pureFrom)

/-- A function of one value. -/
def ofOne (f : Meaning → Evaluated Meaning) : Routine :=
  pureFrom [""] 1 fun g => f (g.head?.join.getD .nothing)

/-- A function of two values. -/
def ofTwo (f : Meaning → Meaning → Evaluated Meaning) : Routine :=
  pureFrom ["", ""] 2 fun g => f (g.head?.join.getD .nothing) ((g.drop 1).head?.join.getD .nothing)

/-- A function whose result is not known. -/
def vague : Routine := fun _ _ => return .unknown

/-- A function of a number of arguments without names whose result is not known. -/
def vagueOf (required most : Nat) : Routine := fun _ a => do
  let given := (← a.unnamed).length
  if given < required ∨ most < given then Evaluated.misfit "wrong number of arguments"
  else return .unknown

/-- A function that gives back its first argument. -/
def keepingFirst (parameters : Nat) : Routine := fun _ a => do
  match ← a.unnamed with
  | m :: rest =>
    if rest.length + 1 ≤ parameters then return m else Evaluated.misfit "too many arguments"
  | [] => Evaluated.misfit "missing argument"

/-! ## Classes and instances -/

/-- Whether a value that is no class is one of those whose bases are those of the class that it was
made from. -/
def relayedBases : Meaning → List Meaning
  | .generic origin _ _ => origin.bases
  | _ => []

/-- Whether something is below a class; nothing but classes is below abstract ones. -/
def isBelowClass (m c : Meaning) : Evaluated Bool :=
  if m.isClass then .ok (m.isSubclass c)
  else if (relayedBases m).isEmpty || c.classOf.isBelow "abc.ABCMeta" then
    Evaluated.misfit "issubclass() arg 1 must be a class"
  else .ok ((relayedBases m).any fun b => b.isSubclass c)

/-- Whether something is below one of the classes of a test, tried in order; `fuel` bounds its
nesting.  Words and types with parameters refuse to be tests. -/
def isBelowAny (isInstance : Bool) : (fuel : Nat) → Meaning → Meaning → Evaluated Bool
  | 0, _, _ => .ok false
  | fuel + 1, m, test =>
    let anyOf := fun (tests : List Meaning) =>
      tests.foldlM (fun found t => if found then .ok true else isBelowAny isInstance fuel m t) false
    let function := if isInstance then "isinstance()" else "issubclass()"
    let subscripted := "Subscripted generics cannot be used with class and instance checks"
    match test with
    | .unknown => .ok false
    | .tuple items => anyOf items
    | .barred items => anyOf items
    | .applied .union _ _ items =>
      items.foldlM (fun found t => if found then .ok true else isBelowAny false fuel m t) false
    | .applied .. => Evaluated.refused subscripted
    | .annotated .. => Evaluated.refused subscripted
    | .form _ => Evaluated.refused (test.shown ++ " cannot be used with " ++ function)
    | .template name =>
      let origin := ((Template.find? name).map fun t => Meaning.type t.origin).getD .unknown
      match m with
      | .template other =>
        isBelowClass (((Template.find? other).map fun t => Meaning.type t.origin).getD .unknown)
          origin
      | .applied .. => Evaluated.refused subscripted
      | .annotated .. => Evaluated.refused subscripted
      | m => isBelowClass m origin
    | .type "typing.Any" =>
      if isInstance then Evaluated.refused "typing.Any cannot be used with isinstance()"
      else isBelowClass m test
    | .type "typing.Protocol" =>
      Evaluated.refused
        "Instance and class checks can only be used with @runtime_checkable protocols"
    | .type _ => isBelowClass m test
    | .made .. => isBelowClass m test
    | _ => Evaluated.misfit "arg 2 must be a type, a tuple of types, or a union"

/-- Whether a value is an instance of a class. -/
def isInstance (m test : Meaning) : Evaluated Meaning := do
  return .truth (← isBelowAny true 50 m.classOf test)

/-- Whether a class is below another one. -/
def isSubclass (m test : Meaning) : Evaluated Meaning :=
  match m with
  | .unknown => .ok .unknown
  | m => do return .truth (← isBelowAny false 50 m test)

/-- Whether a value can be called. -/
def isCallable : Meaning → Bool
  | .unknown => true
  | .type _ => true
  | .made .. => true
  | .generic .. => true
  | m => m.classOf.hasMember "__call__"

/-! ## Members -/

/-- A member by its name, or another value when it is missing. -/
def getMember : Routine := pureFrom ["", "", ""] 2 fun g =>
  match g with
  | [some m, some (.text name), other] =>
    match m.memberOf name, other with
    | .ok value, _ => .ok value
    | .error failure, some other =>
      if failure.kind = .missingAttribute then .ok other else .error failure
    | .error failure, none => .error failure
  | [some .unknown, _, _] => .ok .unknown
  | _ => Evaluated.misfit "attribute name must be string"

/-- What giving a value to a member gives: nothing, unless the value keeps its members. -/
def setMember (m : Meaning) (name : String) : Evaluated Meaning :=
  match m with
  | .made .. => .ok .nothing
  | .lambda .. => .ok .nothing
  | .object (.made ..) _ => .ok .nothing
  | .library _ => .ok .nothing
  | .unknown => .ok .nothing
  | .type _ => Evaluated.misfit "cannot set attribute of immutable type"
  | m =>
    if m.isA "typing._BaseGenericAlias" && Meaning.isSpecial name then .ok .nothing
    else Evaluated.lacking m name

/-- Whether a member is there. -/
def hasMember (m name : Meaning) : Evaluated Meaning :=
  match name with
  | .text name =>
    match m.memberOf name with
    | .ok _ => .ok (.truth true)
    | .error failure =>
      if failure.kind = .missingAttribute then .ok (.truth false) else .error failure
  | _ => Evaluated.misfit "attribute name must be string"

/-! ## Numbers -/

/-- An integer in a base with its mark. -/
def inBase (base : Nat) (mark : String) (m : Meaning) : Evaluated Meaning :=
  match m.integer? with
  | some n =>
    let digits := String.ofList (Format.digitsIn base n.natAbs)
    .ok (.text ((if n < 0 then "-" else "") ++ mark ++ digits))
  | none => if m.isVagueNumber then .ok .unknown else Evaluated.misfit "not an integer"

/-- The character of a code. -/
def character (m : Meaning) : Evaluated Meaning :=
  match m.integer? with
  | some n =>
    if 0 ≤ n ∧ n < 0x110000 then .ok (Meaning.ofChar (Char.ofNat n.toNat))
    else if n < -2147483648 ∨ 2147483647 < n then Evaluated.overflow
    else Evaluated.invalid "chr() arg not in range(0x110000)"
  | none => Evaluated.misfit "an integer is required"

/-- The code of a character. -/
def code (m : Meaning) : Evaluated Meaning :=
  match m with
  | .text s =>
    match s.toList with
    | [c] => .ok (.integer c.toNat)
    | _ => Evaluated.misfit "ord() expected a character"
  | .bytes [b] _ => .ok (.integer b.toNat)
  | .unknown => .ok .unknown
  | _ => Evaluated.misfit "ord() expected string of length 1"

/-- A power, or what remains of it after a division. -/
def power : Routine := pureFrom ["base", "exp", "mod"] 2 fun g =>
  match g with
  | [some a, some b, modulus] => Meaning.power a b (modulus.getD .nothing)
  | _ => Evaluated.misfit "missing argument"

/-! ## Items -/

/-- The first item that passes a test, given by the order of the values that a key gives. -/
def extreme (c : Comparison) : Routine := fun k a => do
  let items ← match a.positional with
    | [m] => k.items m
    | [] => Evaluated.misfit "expected at least 1 argument"
    | items => pure items
  if a.named.any fun e => e.1 != "key" && e.1 != "default" then
    Evaluated.misfit "unexpected keyword argument"
  match ← Method.keyed k items a.named with
  | [] =>
    match a.named.lookup "default" with
    | some m => return m
    | none => Evaluated.invalid "arg is an empty sequence"
  | first :: rest =>
    let (m, _) ← rest.foldlM (fun best e => do
      return if ← Meaning.ordered c e.2 best.2 then e else best) first
    return m

/-- The items of a value in order; equal ones keep their order. -/
def sorted : Routine := fun k a => do
  match a.positional with
  | [m] => return .list (← Method.inOrder k (← k.items m) a.named)
  | _ => Evaluated.misfit "sorted expected 1 argument"

/-- The sum of the items of a value. -/
def sum : Routine := taking ["", "start"] 1 fun k g => do
  let start := (g.drop 1).head?.join.getD (.integer 0)
  if start.isText then Evaluated.misfit "sum() can't sum strings"
  else
    let items ← k.items (g.head?.join.getD .nothing)
    items.foldlM (fun total m => do return (← Meaning.binary .add total m)) start

/-- Whether the items of a value pass, tried in order. -/
def quantified (stopsAt : Bool) : Routine := taking [""] 1 fun k g => do
  let items ← k.items (g.head?.join.getD .nothing)
  return .truth (if items.any fun m => m.isTruthy == stopsAt then stopsAt else !stopsAt)

/-- The next item of an iterator, or another value when there is none. -/
def next : Routine := taking ["", ""] 1 fun k g => do
  let m := g.head?.join.getD .nothing
  if m matches .unknown then return .unknown
  else if Method.isIterator m then
    match ← k.items m, (g.drop 1).head?.join with
    | item :: _, _ => return item
    | [], some other => return other
    | [], none => Evaluated.exhausted
  else Evaluated.misfit "object is not an iterator"

/-- An iterator over the items of a value, or over the results of a function. -/
def iterator : Routine := taking ["", ""] 1 fun k g => do
  match g.head?.join.getD .nothing, (g.drop 1).head?.join with
  | .unknown, _ => return .unknown
  | m, some _ =>
    if isCallable m then return Meaning.instanceOf "callable_iterator" []
    else Evaluated.misfit "iter(v, w): v must be callable"
  | m, none => Method.iterated k m { positional := [] }

/-- The result of a function on pairs of an earlier result and the next item. -/
def reduced : Routine := fun k a => do
  match ← a.unnamed with
  | [f, items] =>
    match ← k.items items with
    | first :: rest => rest.foldlM (fun m item => k.call f { positional := [m, item] }) first
    | [] => Evaluated.misfit "reduce() of empty iterable with no initial value"
  | [f, items, first] =>
    (← k.items items).foldlM (fun m item => k.call f { positional := [m, item] }) first
  | _ => Evaluated.misfit "reduce expected 2 or 3 arguments"

/-! ## Expressions -/

/-- The entries of a dictionary as names. -/
def namesOf (m : Option Meaning) : List (String × Meaning) :=
  match m with
  | some (.dict _ entries) => entries.filterMap fun (k, v) => k.text?.map fun name => (name, v)
  | _ => []

/-- An expression in a text, evaluated; spaces and tabulators in front do not count. -/
def evaluate : Routine := fun k a => do
  match ← a.unnamed with
  | source :: spaces =>
    let text ← match source with
      | .text s => pure s
      | .bytes bs _ => pure (String.ofList (Meaning.charsOf bs))
      | .unknown => pure "..."
      | _ => Evaluated.misfit "eval() arg 1 must be a string, bytes or code object"
    let chars := text.toList.dropWhile fun c => c == ' ' || c == '\t'
    if chars.contains '\x00' then Evaluated.invalid "null character"
    else
      match Expression.read chars with
      | none => throw (.elementary .malformedExpression "invalid syntax")
      | some e =>
        match spaces with
        | [] => k.enter e
        | globals :: locals =>
          if !(globals matches .dict ..) && !(globals matches .nothing) then
            Evaluated.misfit "globals must be a dict"
          let names := locals.flatMap (fun m => namesOf (some m)) ++ namesOf (some globals)
          Evaluation.within [{ isComprehension := false, names }] (k.enter e)
  | [] => Evaluated.misfit "eval expected at least 1 argument"

/-- The names of a scope as a dictionary. -/
def namesAsDict (names : List (String × Meaning)) : Meaning :=
  .dict "dict" (Meaning.merged [] (names.reverse.map fun (name, m) => (.text name, m)))

/-- The names outside of all frames. -/
def globals : Routine := fun _ a => do
  if a.positional.isEmpty && a.named.isEmpty then
    let known := [("__builtins__", Meaning.library "builtins"), ("typing", .library "typing")]
    return namesAsDict ((← get).outer ++ known)
  else Evaluated.misfit "takes no arguments"

/-- The names of the innermost frame. -/
def locals : Routine := fun _ a => do
  if a.positional.isEmpty && a.named.isEmpty then
    match (← get).frames with
    | f :: _ => return namesAsDict f.names
    | [] => return namesAsDict (← get).outer
  else Evaluated.misfit "takes no arguments"

/-- A library by its name. -/
def importing : Routine := fun _ a => do
  match a.positional.head? with
  | some (.text name) =>
    if name = "builtins" then return .library name
    else if name = "collections.abc" then return .library "collections"
    else if (Library.all.lookup name).isSome then return .library name
    else if ["abc", "os", "json", "datetime", "math", "enum", "decimal", "dataclasses", "itertools",
        "io", "time", "random", "string", "inspect", "logging", "pathlib", "uuid", "copy",
        "numbers", "fractions", "array", "queue", "threading", "asyncio"].contains name then
      return .unknown
    else throw (.elementary .missingModule ("No module named " ++ Text.quote name))
  | some _ => Evaluated.misfit "__import__() argument 1 must be str"
  | none => Evaluated.misfit "__import__() missing argument"

/-! ## The library of templates -/

/-- What a type was made from. -/
def originOf (m : Meaning) : Meaning :=
  match m with
  | .annotated .. => .type "typing.Annotated"
  | .generic origin _ _ => origin
  | .applied _ origin _ _ => origin
  | .template name => ((Template.find? name).map fun t => Meaning.type t.origin).getD .unknown
  | .barred _ => .type "types.UnionType"
  | .type "typing.Generic" => m
  | .object kind (origin :: _) =>
    if ["typing.ParamSpecArgs", "typing.ParamSpecKwargs"].contains kind.fullName then origin
    else .nothing
  | .unknown => .unknown
  | _ => .nothing

/-- The parameters of a type; those of a function stand in a list of their own. -/
def parametersOf (m : Meaning) : Meaning :=
  match m with
  | .annotated inner remarks => .tuple (inner :: remarks)
  | .generic origin parameters _ =>
    if origin.fullName = "collections.abc.Callable" then functionParts parameters
    else .tuple parameters
  | .applied .function _ _ parameters => functionParts parameters
  | .applied _ _ _ parameters => .tuple parameters
  | .barred parameters => .tuple parameters
  | .unknown => .unknown
  | _ => .tuple []
where
  /-- The parameters of a function in a list, and its result. -/
  functionParts (parameters : List Meaning) : Meaning :=
    match parameters with
    | [first, result] =>
      if Meaning.standsForParameters first then .tuple [first, result]
      else .tuple [.list [first], result]
    | parameters => .tuple [.list parameters.dropLast, parameters.getLast?.getD .nothing]

/-- A class of tuples with named places. -/
def tupleClass (name : String) (fields : List String) : Meaning :=
  .made name [.type "tuple"]
    ([("_fields", Meaning.tuple (fields.map .text)), ("_field_defaults", .dict "dict" []),
      ("__match_args__", .tuple (fields.map .text)), ("_asdict", .unknown), ("_make", .unknown),
      ("_replace", .unknown)] ++ fields.map fun f => (f, .unknown))

/-- The names of fields: words of a text, or texts. -/
def fieldNames (k : Machine) (m : Meaning) : Evaluation (List String) := do
  match m with
  | .text s =>
    return Catalogue.wordsOf (String.ofList (s.toList.map fun c => if c = ',' then ' ' else c))
  | m => return (← k.items m).map Meaning.plain

/-- The refusal of a name. -/
def refusedName (reason name : String) : Evaluated Unit :=
  .error (.raised .invalidValue (reason ++ ": " ++ Text.quote name))

/-- Refuse names that are no names or that are reserved. -/
def checkNames : List String → Evaluated Unit
  | [] => .ok ()
  | n :: rest =>
    if !(Text.isIdentifier n.toList) then
      refusedName "Type names and field names must be valid identifiers" n
    else if Reader.reserved.contains n then
      refusedName "Type names and field names cannot be a keyword" n
    else checkNames rest

/-- Refuse names of fields that start with a low line or stand among earlier ones. -/
def checkFields (earlier : List String) : List String → Evaluated Unit
  | [] => .ok ()
  | n :: rest =>
    if n.startsWith "_" then refusedName "Field names cannot start with an underscore" n
    else if earlier.contains n then refusedName "Encountered duplicate field name" n
    else checkFields (n :: earlier) rest

/-- A class of tuples with named places. -/
def namedTuple : Routine := fun k a => do
  match a.positional with
  | name :: fields :: _ =>
    let names ← fieldNames k fields
    checkNames (name.plain :: names)
    checkFields [] names
    return tupleClass name.plain names
  | _ => Evaluated.misfit "missing argument"

/-- A class of tuples with named places of types. -/
def typedTuple : Routine := fun k a => do
  match a.positional with
  | [name] =>
    let names := a.named.map Prod.fst
    checkNames (name.plain :: names)
    checkFields [] names
    return tupleClass name.plain names
  | [name, fields] =>
    let names ← (← k.items fields).mapM fun m => do
      match ← k.items m with
      | [field, type] => do
        let _ ← Meaning.typeOf "field annotation must be a type" type
        return field.plain
      | _ => Evaluated.invalid "wrong number of values to unpack"
    checkNames (name.plain :: names)
    checkFields [] names
    return tupleClass name.plain names
  | _ => Evaluated.misfit "missing argument"

/-- A class of dictionaries with keys of types. -/
def typedDict : Routine := fun k a => do
  let fields := a.named.filter fun e => e.1 != "total"
  match a.positional with
  | name :: rest =>
    let entries ← match rest with
      | [] => pure (fields.map fun (name, m) => (Meaning.text name, m))
      | [m] =>
        if !m.isTruthy && fields.isEmpty then pure []
        else if !fields.isEmpty then
          Evaluated.refused "TypedDict takes either a dict or keyword arguments, but not both"
        else Construction.entriesOf k m
      | _ => Evaluated.misfit "TypedDict() takes from 1 to 2 positional arguments"
    match name with
    | .text name =>
      let _ ← entries.mapM fun e => (Meaning.typeOf "TypedDict fields must be types" e.2 true)
      return .made name [.type "dict"]
        [("__total__", .truth true), ("__annotations__", .dict "dict" entries)]
    | _ => Evaluated.misfit "type.__new__() argument 1 must be str"
  | [] => Evaluated.misfit "missing argument"

/-- A class made by a function of the library of types. -/
def madeClass : Routine := fun k a => do
  match a.positional with
  | .text name :: rest =>
    let bases ← match rest with
      | bases :: _ => k.items bases
      | [] => pure []
    return (← Construction.newClass name bases [])
  | _ => Evaluated.misfit "missing argument"

/-! ## Operators -/

/-- The functions of operators between two values. -/
def operators : List (String × BinaryOperator) :=
  [("add", .add), ("sub", .subtract), ("mul", .multiply), ("matmul", .multiplyMatrices),
   ("truediv", .divide), ("floordiv", .divideFloor), ("mod", .modulo), ("pow", .power),
   ("lshift", .shiftLeft), ("rshift", .shiftRight), ("and_", .bitAnd), ("xor", .bitXor),
   ("or_", .bitOr), ("concat", .add), ("iadd", .add), ("isub", .subtract), ("imul", .multiply),
   ("ior", .bitOr), ("iand", .bitAnd), ("ixor", .bitXor), ("iconcat", .add),
   ("itruediv", .divide), ("ifloordiv", .divideFloor), ("imod", .modulo), ("ipow", .power),
   ("ilshift", .shiftLeft), ("irshift", .shiftRight), ("imatmul", .multiplyMatrices)]

/-- The functions of comparisons between two values. -/
def comparisons : List (String × Comparison) :=
  [("eq", .equal), ("ne", .unequal), ("lt", .less), ("le", .lessEqual), ("gt", .greater),
   ("ge", .greaterEqual), ("is_", .same), ("is_not", .notSame)]

/-- The function of an operator. -/
def ofOperator (name : String) : Routine :=
  match operators.lookup name, comparisons.lookup name with
  | some o, _ => ofTwo (Meaning.binary o)
  | none, some c => ofTwo fun a b => (Meaning.compared c a b (.ok [])).map Meaning.truth
  | none, none =>
    if name = "getitem" then ofTwo Meaning.subscripted
    else if name = "not_" then ofOne fun m => .ok (.truth !m.isTruthy)
    else if name = "truth" then ofOne fun m => .ok (.truth m.isTruthy)
    else if name = "neg" then ofOne (Meaning.unary .minus)
    else if name = "pos" then ofOne (Meaning.unary .plus)
    else if name = "inv" ∨ name = "invert" then ofOne (Meaning.unary .invert)
    else if name = "abs" then ofOne Method.absolute
    else if name = "index" then ofOne fun m => match m.integer? with
      | some n => .ok (.integer n)
      | none => Evaluated.misfit "cannot be interpreted as an integer"
    else if name = "contains" then fun k a => do
      match ← a.unnamed with
      | [m, item] => do return .truth (← Meaning.contains m item (.ok (← k.items m)))
      | _ => Evaluated.misfit "contains expected 2 arguments"
    else if name = "call" then fun k a => do
      match a.positional with
      | f :: rest => k.call f { a with positional := rest }
      | [] => Evaluated.misfit "call expected at least 1 argument"
    else if name = "countOf" then fun k a => do
      match ← a.unnamed with
      | [m, item] => do return .integer ((← k.items m).filter (Meaning.same item)).length
      | _ => Evaluated.misfit "countOf expected 2 arguments"
    else if name = "length_hint" then ofOne Method.lengthOf
    else vague

/-! ## All functions -/

/-- The functions that need no library. -/
def openAll : List (String × Routine) :=
  [("abs", ofOne Method.absolute), ("all", quantified false), ("any", quantified true),
   ("ascii", ofOne fun m => do return .text (Meaning.inAscii (← m.inFull))),
   ("repr", ofOne fun m => do return .text (← m.inFull)),
   ("bin", ofOne (inBase 2 "0b")), ("oct", ofOne (inBase 8 "0o")), ("hex", ofOne (inBase 16 "0x")),
   ("callable", ofOne fun m => .ok (.truth (isCallable m))), ("chr", ofOne character),
   ("ord", ofOne code), ("divmod", ofTwo Meaning.quotientAndRest), ("eval", evaluate),
   ("exec", fun k a => do
     match a.positional with
     | .text s :: rest =>
       match Expression.read s.toList with
       | some _ => let _ ← evaluate k { positional := .text s :: rest }
                   return .nothing
       | none => return .nothing
     | _ => return .nothing),
   ("format", pureFrom ["", ""] 1 fun g =>
     match g with
     | [some m, none] => do return .text (← m.formatted "")
     | [some m, some (.text spec)] => do return .text (← m.formatted spec)
     | _ => Evaluated.misfit "format() argument 2 must be str"),
   ("getattr", getMember), ("hasattr", ofTwo hasMember), ("hash", ofOne Method.hashOf),
   ("setattr", fun _ a => match a.positional with
     | [m, .text name, _] => do return (← setMember m name)
     | _ => Evaluated.misfit "setattr expected 3 arguments"),
   ("delattr", fun _ a => match a.positional with
     | [.type _, _] => Evaluated.misfit "cannot set attribute of immutable type"
     | [m, .text name] => do return (← Evaluated.lacking m name)
     | _ => Evaluated.misfit "delattr expected 2 arguments"),
   ("id", ofOne fun m => .ok (Meaning.instanceOf "int" [.text "id", m])),
   ("isinstance", ofTwo isInstance),
   ("issubclass", ofTwo isSubclass), ("iter", iterator), ("len", ofOne Method.lengthOf),
   ("max", extreme .greater), ("min", extreme .less), ("next", next), ("pow", power),
   ("print", fun _ _ => return .nothing), ("round", pureFrom ["number", "ndigits"] 1 fun g =>
     Meaning.rounded (g.head?.join.getD .nothing) ((g.drop 1).head?.join.getD .nothing)),
   ("sorted", sorted), ("sum", sum),
   ("globals", globals), ("locals", locals), ("__import__", importing),
   ("vars", fun k a => match a.positional with
     | [] => locals k a
     | [m] =>
       if m.isClass || (m matches .library _) || m.isOfMadeClass || (m matches .unknown) then
         return .unknown
       else Evaluated.misfit "vars() argument must have __dict__ attribute"
     | _ => Evaluated.misfit "vars expected at most 1 argument"),
   ("open", fun _ a => match a.positional with
     | .text _ :: _ => throw (.elementary (.other "FileNotFoundError") "")
     | _ => Evaluated.misfit "expected str, bytes or os.PathLike object"),
   ("exit", fun _ _ => throw (.raised .exit "None")),
   ("aiter", ofOne fun _ => Evaluated.misfit "not an async iterable"),
   ("anext", ofOne fun _ => Evaluated.misfit "not an async iterator")]

/-- The functions of libraries. -/
def libraryAll : List (String × Routine) :=
  [("typing.get_origin", pureFrom ["tp"] 1 fun g => .ok (originOf (g.head?.join.getD .nothing))),
   ("typing.get_args", pureFrom ["tp"] 1 fun g => .ok (parametersOf (g.head?.join.getD .nothing))),
   ("typing.cast", pureFrom ["typ", "val"] 2 fun g => .ok ((g.drop 1).head?.join.getD .nothing)),
   ("typing.assert_type", pureFrom ["val", "typ"] 2 fun g => .ok (g.head?.join.getD .nothing)),
   ("typing.reveal_type", keepingFirst 1),
   ("typing.final", keepingFirst 1), ("typing.no_type_check", ofOne fun m =>
     match setMember m "__no_type_check__" with
     | .ok _ => .ok m
     | .error failure => if isMisfit failure then .ok m else .error failure),
   ("typing.abstractmethod", keepingFirst 1),
   ("typing.runtime_checkable", ofOne fun m =>
     if !m.isClass && (relayedBases m).isEmpty then
       Evaluated.misfit "issubclass() arg 1 must be a class"
     else if m.isBelow "typing.Protocol" then .ok m
     else Evaluated.refused
       ("@runtime_checkable can be only applied to protocol classes, got " ++ m.shown)),
   ("typing.assert_never", ofOne fun m =>
     .error (.raised (.other "AssertionError")
       ("Expected code to be unreachable, but got: " ++ m.shown))),
   ("typing.is_typeddict", ofOne fun m =>
     .ok (.truth ((m.madeMember? "__total__").isSome))),
   ("typing.clear_overloads", pureFrom [] 0 fun _ => .ok .nothing),
   ("typing.get_overloads", ofOne fun m => do
     let _ ← m.memberOf "__module__"
     return .list []),
   ("typing.overload", vagueOf 1 1), ("typing.dataclass_transform", fun _ a =>
     if a.positional.isEmpty then return .unknown
     else Evaluated.misfit "dataclass_transform() takes 0 positional arguments"),
   ("typing.NamedTuple", typedTuple), ("typing.TypedDict", typedDict),
   ("typing.get_type_hints", fun _ a => match a.positional with
     | m :: _ =>
       if m.isClass || (m matches .lambda ..) || (m matches .routine _) || (m matches .library _) ||
           (m matches .unknown) then return .dict "dict" []
       else Evaluated.refused (m.shown ++ " is not a module, class, method, or function.")
     | [] => Evaluated.misfit "missing argument"),
   ("collections.namedtuple", namedTuple), ("functools.namedtuple", namedTuple),
   ("functools.reduce", reduced),
   ("functools.cache", ofOne fun f =>
     if isCallable f then .ok f else Evaluated.misfit "the first argument must be callable"),
   ("functools.lru_cache", pureFrom ["maxsize", "typed"] 0 fun g =>
     match g.head?.join with
     | none => .ok .unknown
     | some .nothing => .ok .unknown
     | some m =>
       if m.integer?.isSome then .ok .unknown
       else if isCallable m && ((g.drop 1).head?.join.all (·.isA "bool")) then .ok m
       else Evaluated.refused "Expected first argument to be an integer, a callable, or None"),
   ("functools.wraps", pureFrom ["wrapped", "assigned", "updated"] 1 fun _ => .ok .unknown),
   ("functools.total_ordering", keepingFirst 1),
   ("types.new_class", madeClass), ("types.coroutine", keepingFirst 1),
   ("types.resolve_bases", keepingFirst 1), ("sys.intern", ofOne fun m =>
     if m.isText then .ok m else Evaluated.misfit "intern() argument must be str"),
   ("sys.getsizeof", pureFrom ["object", "default"] 1 fun _ => .ok .unknown),
   ("sys.getrecursionlimit", fun _ _ => return .integer 1000),
   ("sys.getdefaultencoding", fun _ _ => return .text "utf-8"),
   ("sys.exit", fun _ _ => throw (.elementary .exit "")),
   ("re.compile", pureFrom ["pattern", "flags"] 1 fun g => do
     match g with
     | [some m, flags] =>
       if flags.isSome then let _ ← TextMethod.integerOf flags
       if m.isText || (m matches .bytes ..) || (m matches .unknown) then return .unknown
       else if m.isKey then Evaluated.refused "first argument must be string or compiled pattern"
       else Evaluated.misfit "unhashable pattern"
     | _ => Evaluated.misfit "missing argument"),
   ("re.escape", vagueOf 1 1), ("contextlib.suppress", vagueOf 0 1000),
   ("contextlib.nullcontext", pureFrom ["enter_result"] 0 fun _ => .ok .unknown),
   ("warnings.warn", pureFrom ["message", "category", "stacklevel", "source"] 1 fun g =>
     match (g.drop 1).head?.join with
     | none => .ok .nothing
     | some .nothing => .ok .nothing
     | some c =>
       if c.isClass && c.isBelow "Warning" then .ok .nothing
       else Evaluated.misfit "category must be a Warning subclass")]

/-- What a function gives. -/
def call (k : Machine) (name : String) (a : Arguments) : Evaluation Meaning :=
  match openAll.lookup name <|> libraryAll.lookup name with
  | some f => f k a
  | none =>
    if Catalogue.libraryOf name = "operator" then ofOperator (Catalogue.shortName name) k a
    else return .unknown

end Routine
end Annotation
end BoundUpdate
