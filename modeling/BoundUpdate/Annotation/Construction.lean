import BoundUpdate.Annotation.TextMethods
import BoundUpdate.Annotation.Operators
import BoundUpdate.Number.RealText

namespace BoundUpdate
namespace Annotation

/-!
# Instances of classes

A class is called to make an instance: a value of an elementary class from what
it is made of, a new class from a name, bases and members, or an object that
keeps its arguments.
-/

/-- How a class makes an instance from arguments. -/
abbrev Maker := Machine → Arguments → Evaluation Meaning

namespace Construction

/-- A maker from the arguments of some parameters. -/
def taking (parameters : List String) (required : Nat)
    (f : Machine → Given → Evaluation Meaning) : Maker := fun k a => do
  f k (← a.bind parameters required)

/-- A maker that does not run anything. -/
def pureFrom (parameters : List String) (required : Nat) (f : Given → Evaluated Meaning) : Maker :=
  taking parameters required fun _ g => do return (← f g)

/-! ## Numbers -/

/-- The value of a digit in a base up to 36. -/
def digitIn? (base : Nat) (c : Char) : Option Nat :=
  let value := match Number.digitValue? c with
    | some n => some n
    | none =>
      let c := c.toLower
      if 'a' ≤ c ∧ c ≤ 'z' then some (c.toNat - 87) else none
  value.bind fun n => if n < base then some n else none

/-- Digits in a base, with single low lines between them. -/
def digitsIn? (base : Nat) : List Char → Option (List Nat)
  | [] => none
  | [c] => (digitIn? base c).map ([·])
  | c :: '_' :: rest => do return (← digitIn? base c) :: (← digitsIn? base rest)
  | c :: rest => do return (← digitIn? base c) :: (← digitsIn? base rest)

/-- The base that the mark in front of digits tells. -/
def markedBase (s : List Char) : Option Nat :=
  match s with
  | '0' :: c :: _ =>
    let c := c.toLower
    if c = 'x' then some 16 else if c = 'o' then some 8 else if c = 'b' then some 2 else none
  | _ => none

/-- An integer written in a base; the base zero stands for the one that the mark tells. -/
def integerIn? (base : Nat) (s : List Char) : Option Int :=
  let s := Text.trim s
  let (negative, s) := Number.readSign s
  let marked := markedBase s
  let isMarked := marked.isSome && (base == 0 || marked == some base)
  let actual := if base = 0 then marked.getD 10 else base
  let body := if isMarked then
      match s.drop 2 with
      | '_' :: rest => rest
      | rest => rest
    else s
  match digitsIn? actual body with
  | some ds =>
    if base = 0 ∧ !isMarked ∧ ds.head? = some 0 ∧ ds.any (· != 0) then none
    else
      let n : Int := (ds.foldl (fun n d => actual * n + d) 0 : Nat)
      some (if negative then -n else n)
  | none => none

/-- The integer that a text is. -/
def integerOfText (s : List Char) : Evaluated Meaning :=
  match Number.readInteger s with
  | .ok n => .ok (.integer n)
  | .error _ => Evaluated.invalid "invalid literal for int()"

/-- An integer from a value. -/
def integerFrom (m : Meaning) : Evaluated Meaning :=
  match m.integer?, m with
  | some n, _ => .ok (.integer n)
  | none, .text s => integerOfText s.toList
  | none, .bytes bs _ => integerOfText (Meaning.charsOf bs)
  | none, .real x =>
    match x.truncate?, x with
    | some n, _ => .ok (.integer n)
    | none, .infinity _ => Evaluated.infiniteInteger
    | none, _ => Evaluated.invalid "cannot convert float NaN to integer"
  | none, .unknown => .ok .unknown
  | none, m =>
    if m.isVagueNumber && !(m.isA "complex") then .ok m else Evaluated.misfit "not a number"

/-- An integer from a value and a base. -/
def integer (g : Given) : Evaluated Meaning :=
  match g with
  | [none, none] => .ok (.integer 0)
  | [some m, none] => integerFrom m
  | [some m, some base] => do
    let base ← TextMethod.integerOf (some base)
    if base ≠ 0 ∧ (base < 2 ∨ 36 < base) then Evaluated.invalid "int() base must be >= 2 and <= 36"
    else
      let chars ← match m with
        | .text s => pure s.toList
        | .bytes bs _ => pure (Meaning.charsOf bs)
        | _ => Evaluated.misfit "int() can't convert non-string with explicit base"
      match integerIn? base.toNat chars with
      | some n => return .integer n
      | none => Evaluated.invalid "invalid literal for int()"
  | _ => Evaluated.misfit "int() missing string argument"

/-- A text without single low lines between digits; `none` when a low line stands elsewhere. -/
def withoutMarks? : List Char → Option (List Char)
  | [] => some []
  | ['_'] => none
  | '_' :: _ => none
  | c :: '_' :: d :: rest =>
    if Number.isDigit c && Number.isDigit d then (withoutMarks? (d :: rest)).map (c :: ·) else none
  | c :: rest => (withoutMarks? rest).map (c :: ·)

/-- The real number that a text is. -/
def realOfText (s : List Char) : Evaluated Meaning :=
  let s := Text.trim s
  let (negative, body) := Number.readSign s
  let word := String.ofList (body.map Char.toLower)
  if word = "inf" ∨ word = "infinity" then .ok (.real (.infinity negative))
  else if word = "nan" then .ok (.real .nan)
  else
    match (withoutMarks? s).bind Number.readDecimalLiteral with
    | some l => .ok (.real (.ofDecimal l.negative l.digits l.exponent))
    | none => Evaluated.invalid "could not convert string to float"

/-- A real number from a value. -/
def real (g : Given) : Evaluated Meaning :=
  match g.head?.join with
  | none => .ok (.real (.zero false))
  | some m =>
    match m.integer?, m with
    | some n, _ => do return .real (← Meaning.realOfInteger n)
    | none, .real x => .ok (.real x)
    | none, .text s => realOfText s.toList
    | none, .bytes bs _ => realOfText (Meaning.charsOf bs)
    | none, .unknown => .ok .unknown
    | none, _ => Evaluated.misfit "float() argument must be a string or a real number"

/-- Where the imaginary part of a complex number's text starts: at the last sign that neither stands
in front nor belongs to a power of ten. -/
def imaginaryStart (s : List Char) : Nat :=
  let places := (s.zip (s.drop 1)).zipIdx
  let signs := places.filter fun ((before, c), _) =>
    (c == '+' || c == '-') && !(before == 'e' || before == 'E')
  (signs.getLast?.map fun e => e.2 + 1).getD 0

/-- The complex number that a text is: a real part, an imaginary part with its mark, or both. -/
def complexOfText (s : List Char) : Evaluated Meaning := do
  let s := Text.trim s
  let s := match s with
    | '(' :: rest => if rest.getLast? = some ')' then Text.trim rest.dropLast else s
    | s => s
  let number := fun (cs : List Char) => (do
    if cs.any Text.isBlank then Evaluated.invalid "complex() arg is a malformed string"
    match ← realOfText cs with
    | .real x => return x
    | _ => Evaluated.invalid "complex() arg is a malformed string" : Evaluated Number.Binary64)
  match s.getLast? with
  | some c =>
    if c = 'j' ∨ c = 'J' then
      let s := s.dropLast
      let n := imaginaryStart s
      let imaginary := s.drop n
      let x ← if n = 0 then pure (Number.Binary64.zero false) else number (s.take n)
      let y ← if imaginary.all fun c => c == '+' || c == '-' then number (imaginary ++ ['1'])
        else number imaginary
      return .complex x y
    else return .complex (← number s) (.zero false)
  | none => Evaluated.invalid "complex() arg is a malformed string"

/-- A complex number from its parts. -/
def complex (g : Given) : Evaluated Meaning := do
  let part := fun (m : Option Meaning) =>
    (match m.bind Meaning.figure? with
      | some f => f.parts
      | none =>
        match m with
        | none => .ok (.zero false, .zero false)
        | some _ => Evaluated.misfit "complex() argument must be a string or a number" :
      Evaluated (Number.Binary64 × Number.Binary64))
  let isComplex := fun (m : Option Meaning) => m.any fun m => m matches .complex ..
  match g with
  | [some (.text s), none] => complexOfText s.toList
  | [x, none] => do
    let (a, b) ← part x
    return .complex a b
  | [x, y] =>
    let (a, b) ← part x
    let (c, d) ← part y
    return .complex (if isComplex y then a.sub d else a) (if isComplex x then b.add c else c)
  | _ => Evaluated.misfit "wrong arguments"

/-! ## Texts -/

/-- A text from a value, or from bytes in an encoding. -/
def text (g : Given) : Evaluated Meaning :=
  match g with
  | [none, none, none] => .ok (.text "")
  | [some .unknown, _, _] => .ok .unknown
  | [some m, none, none] => do return .text (← m.inShort)
  | some (.bytes bs _) :: rest => do
    let (encoding, handling) ← TextMethod.encodingOf rest.head?.join (rest.drop 1).head?.join
    return TextMethod.text (← TextMethod.decoded encoding handling bs)
  | [none, _, _] => .ok (.text "")
  | _ => Evaluated.misfit "decoding to str: need a bytes-like object"

/-- A byte from an integer. -/
def byteOf (m : Meaning) : Evaluated UInt8 :=
  match m.integer? with
  | some n =>
    if 0 ≤ n ∧ n < 256 then .ok (UInt8.ofNat n.toNat)
    else Evaluated.invalid "bytes must be in range(0, 256)"
  | none => Evaluated.misfit "cannot be interpreted as an integer"

/-- Bytes from a length, a text in an encoding, or integers. -/
def bytes (isMutable : Bool) (k : Machine) (g : Given) : Evaluation Meaning :=
  match g with
  | none :: none :: _ => return .bytes [] isMutable
  | some (.text s) :: encoding :: rest =>
    match encoding with
    | none => Evaluated.misfit "string argument without an encoding"
    | encoding => do
      let (encoding, handling) ← TextMethod.encodingOf encoding rest.head?.join
      return .bytes (← TextMethod.encoded encoding handling s.toList) isMutable
  | [some (.bytes bs _), none, none] => return .bytes bs isMutable
  | [some m, none, none] =>
    match m.integer? with
    | some n =>
      if n < -Meaning.greatestPlace - 1 ∨ Meaning.greatestPlace < n then Evaluated.overflow
      else if n < 0 then Evaluated.invalid "negative count"
      else if Meaning.itemLimit < n.toNat then return (← Meaning.uncomputed n.toNat)
      else return .bytes (List.replicate n.toNat 0) isMutable
    | none => do return .bytes (← (← k.items m).mapM fun m => byteOf m) isMutable
  | _ => Evaluated.misfit "encoding without a string argument"

/-! ## Collections -/

/-- A collection from the items of a value. -/
def collection (wrap : List Meaning → Evaluated Meaning) : Maker :=
  taking [""] 0 fun k g =>
    match g.head?.join with
    | none => do return (← wrap [])
    | some m => do return (← wrap (← k.items (← held m)))
where
  /-- A value whose items are all held at once. -/
  held (m : Meaning) : Evaluated Meaning :=
    match m, m.length? with
    | .range .., some n =>
      if Meaning.greatestPlace < n then Evaluated.overflow
      else if Meaning.memoryLimit / 8 < n then Evaluated.noMemory
      else .ok m
    | m, _ => .ok m

/-- A set of items, with integers in an order. -/
def placedSet (place : List Int → List Int) (isFrozen : Bool) (items : List Meaning) :
    Evaluated Meaning :=
  if Meaning.areKeys items then .ok (.set (Meaning.asSet place items) isFrozen)
  else Evaluated.misfit "unhashable item"

/-- A set to which items are added one by one. -/
def setOf (isFrozen : Bool) (items : List Meaning) : Evaluated Meaning :=
  placedSet Number.inPlaces isFrozen items

/-- An entry from a value of two items. -/
def entryOf (k : Machine) (m : Meaning) : Evaluation (Meaning × Meaning) := do
  match ← k.items m with
  | [key, value] =>
    if key.isKey then return (key, value) else Evaluated.misfit "unhashable key"
  | _ => Evaluated.invalid "dictionary update sequence element has wrong length"

/-- Entries from a dictionary or from values of two items each. -/
def entriesOf (k : Machine) (m : Meaning) : Evaluation (List (Meaning × Meaning)) := do
  match m with
  | .dict _ entries => return entries
  | m =>
    let entries ← (← k.items m).mapM (entryOf k)
    return Meaning.merged [] entries

/-- Entries from named arguments. -/
def namedEntries (a : Arguments) : List (Meaning × Meaning) :=
  a.named.map fun (name, m) => (.text name, m)

/-- A dictionary of a class. -/
def dict (kind : String) : Maker := fun k a =>
  match a.positional with
  | [] => return .dict kind (namedEntries a)
  | [m] => do return .dict kind (Meaning.merged (← entriesOf k m) (namedEntries a))
  | _ => Evaluated.misfit "expected at most 1 argument"

/-- A dictionary that makes missing values. -/
def defaultDict : Maker := fun k a =>
  match a.positional with
  | [] => return .dict "collections.defaultdict" (namedEntries a)
  | .nothing :: rest => dict "collections.defaultdict" k { a with positional := rest }
  | factory :: rest =>
    if factory.classOf.hasMember "__call__" then
      dict "collections.defaultdict" k { a with positional := rest }
    else Evaluated.misfit "first argument must be callable or None"

/-- A dictionary that counts items. -/
def counter : Maker := fun k a => do
  let entries ← match a.positional with
    | [] => pure []
    | [.dict _ entries] => pure entries
    | [.nothing] => pure []
    | [m] => do
      let items ← k.items m
      if Meaning.areKeys items then
        pure (items.foldl (fun entries item =>
          let n := ((Meaning.valueAt? entries item).bind Meaning.integer?).getD 0
          Meaning.withEntry entries item (.integer (n + 1))) [])
      else Evaluated.misfit "unhashable item"
    | _ => Evaluated.misfit "expected at most 1 argument"
  return .dict "collections.Counter" (Meaning.merged entries (namedEntries a))

/-- An integer argument of a range. -/
def rangePart (m : Meaning) : Evaluated Int :=
  match m.integer? with
  | some n => .ok n
  | none => Evaluated.misfit "cannot be interpreted as an integer"

/-- A range. -/
def range : Maker := fun _ a => do
  match ← a.unnamed with
  | [stop] => return .range 0 (← rangePart stop) 1
  | [start, stop] => return .range (← rangePart start) (← rangePart stop) 1
  | [start, stop, step] =>
    let start ← rangePart start
    let stop ← rangePart stop
    let step ← rangePart step
    if step = 0 then Evaluated.invalid "range() arg 3 must not be zero"
    else return .range start stop step
  | _ => Evaluated.misfit "range expected 1 to 3 arguments"

/-- A run of places. -/
def slice : Maker := fun _ a => do
  match ← a.unnamed with
  | [stop] => return .slice .nothing stop .nothing
  | [start, stop] => return .slice start stop .nothing
  | [start, stop, step] => return .slice start stop step
  | _ => Evaluated.misfit "slice expected 1 to 3 arguments"

/-! ## Iterators -/

/-- An iterator over items. -/
def iterator (kind : String) (items : List Meaning) : Meaning := Meaning.instanceOf kind items

/-- Whether a value can be run through. -/
def isIterable (m : Meaning) : Bool :=
  (m matches .generator ..) || m.items?.isSome || (m.classOf.madeMember? "__iter__").isSome

/-- An iterator that runs through its sources when it is asked for items; in front of them it keeps
what it works with. -/
def waiting (kind : String) (kept : Meaning) (sources : List Meaning) : Evaluated Meaning :=
  if sources.all isIterable then .ok (iterator kind (kept :: sources))
  else Evaluated.misfit "object is not iterable"

/-- Rows of items of lists, as many as the shortest list has. -/
def rows : (fuel : Nat) → List (List Meaning) → List (List Meaning)
  | 0, _ => []
  | fuel + 1, lists =>
    if lists.isEmpty || lists.any List.isEmpty then []
    else lists.filterMap List.head? :: rows fuel (lists.map (List.drop 1))

/-- The rows of the items of values, which may have to be equally many. -/
def rowsOf (k : Machine) (isStrict : Bool) (values : List Meaning) :
    Evaluation (List (List Meaning)) := do
  let lists ← values.mapM k.items
  if isStrict && lists.any fun l => l.length != (lists.head?.getD []).length then
    Evaluated.invalid "arguments have different lengths"
  else return rows ((lists.map List.length).foldl max 0 + 1) lists

/-- The items of an iterator that keeps something in front of its sources; `none` for other
iterators. -/
def waitingItems? (k : Machine) (kind : String) (kept : Meaning) (sources : List Meaning) :
    Option (Evaluation (List Meaning)) :=
  match kind with
  | "enumerate" => some do
    let start := kept.integer?.getD 0
    return (← sources.mapM k.items).flatten.zipIdx.map fun (m, (i : Nat)) =>
      .tuple [.integer (start + (i : Int)), m]
  | "map" => some do
    (← rowsOf k false sources).mapM fun row => k.call kept { positional := row }
  | "filter" => some do
    (← sources.mapM k.items).flatten.filterM fun item => do
      match kept with
      | .nothing => return item.isTruthy
      | f => return (← k.call f { positional := [item] }).isTruthy
  | "zip" => some do return (← rowsOf k kept.isTruthy sources).map .tuple
  | _ => none

/-- Items with numbers. -/
def numbered : Maker := taking ["iterable", "start"] 1 fun _ g => do
  let start ← match (g.drop 1).head?.join with
    | none => pure 0
    | m => TextMethod.integerOf m
  return (← waiting "enumerate" (.integer start) [g.head?.join.getD .nothing])

/-- The results of a function on the rows of the items of values. -/
def mapped : Maker := fun _ a => do
  match ← a.unnamed with
  | f :: first :: others => return (← waiting "map" f (first :: others))
  | _ => Evaluated.misfit "map() must have at least two arguments."

/-- The items of a value on which a function gives a true value. -/
def filtered : Maker := fun _ a => do
  match ← a.unnamed with
  | [f, m] => return (← waiting "filter" f [m])
  | _ => Evaluated.misfit "filter expected 2 arguments"

/-- The rows of the items of values as tuples. -/
def zipped : Maker := fun _ a => do
  let isStrict := (a.named.lookup "strict").any Meaning.isTruthy
  if a.named.any fun e => e.1 != "strict" then Evaluated.misfit "unexpected keyword argument"
  else return (← waiting "zip" (.truth isStrict) a.positional)

/-- The items of a value in the other order. -/
def backwards : Maker := fun k a => do
  match ← a.unnamed with
  | [m] =>
    if m.classOf.hasMember "__reversed__" || m.isA "collections.abc.Sequence" then
      return iterator "reversed" (← k.items m).reverse
    else if m matches .unknown then return .unknown
    else Evaluated.misfit "not reversible"
  | _ => Evaluated.misfit "reversed expected 1 argument"

/-! ## Classes -/

/-- Classes that no class may descend from. -/
def finalClasses : List String :=
  ["bool", "NoneType", "ellipsis", "NotImplementedType", "function", "range", "slice",
   "memoryview", "generator", "builtin_function_or_method", "method", "types.GenericAlias",
   "types.UnionType", "typing.Generic", "typing.Annotated", "typing.ForwardRef", "typing.TypeVar",
   "typing.ParamSpec", "typing.TypeVarTuple", "mappingproxy", "cell", "code"]

/-- Whether a class may descend from a value. -/
def isBase : Meaning → Bool
  | .type name => !finalClasses.contains name
  | .made .. => true
  | .unknown => true
  | _ => false

/-- The failures whose instances hold more than others do. -/
def fullFailures : String :=
  "AttributeError BaseException BaseExceptionGroup ImportError NameError OSError StopIteration " ++
  "SyntaxError SystemExit UnicodeDecodeError UnicodeEncodeError UnicodeTranslateError"

/-- The class that decides what instances of a class hold: the first one among the ancestors that is
elementary. -/
def holderOf (c : Meaning) : Meaning :=
  (c.ancestors.find? fun a =>
    match a with
    | .type name =>
      if a.isBelow "BaseException" then (Catalogue.wordsOf fullFailures).contains name
      else name != "object" && (Catalogue.libraryOf name == "builtins" ||
        Meaning.silentClasses.contains name)
    | _ => false).getD (.type "object")

/-- Whether two classes can be bases of one class: what their instances hold has to agree, and no
class stands in front of one that descends from it. -/
def agree (front behind : Meaning) : Bool :=
  let a := holderOf front
  let b := holderOf behind
  (a.ancestors.any (Meaning.sameClass b) || b.ancestors.any (Meaning.sameClass a)) &&
    !(behind.ancestors.any (Meaning.sameClass front))

/-- Whether all classes can be bases of one class. -/
def allAgree : List Meaning → Bool
  | [] => true
  | c :: rest => rest.all (agree c) && allAgree rest

/-- A new class. -/
def newClass (name : String) (bases : List Meaning) (members : List (String × Meaning)) :
    Evaluated Meaning :=
  if !(bases.all isBase) then Evaluated.misfit "not an acceptable base type"
  else if bases.any fun b => b matches .unknown then .ok .unknown
  else if allAgree bases then .ok (.made name bases members)
  else Evaluated.misfit "the bases do not agree"

/-- The class of a value, or a new class. -/
def type : Maker := fun _ a => do
  match a.positional, a.named with
  | [.unknown], [] => return .unknown
  | [m], [] => return m.classOf
  | [.text name, .tuple bases, .dict _ entries], _ =>
    let members := entries.filterMap fun (k, v) => k.text?.map fun name => (name, v)
    return (← newClass name bases members)
  | _, _ => Evaluated.misfit "type() takes 1 or 3 arguments"

/-- A variable of the library of templates. -/
def typeVariable (kind : VariableKind) : Maker := fun _ a => do
  let flag := fun (name : String) => ((a.named.lookup name).map Meaning.isTruthy).getD false
  let known := ["bound", "covariant", "contravariant", "name"]
  match a.positional with
  | name :: constraints =>
    if a.named.any fun e => !known.contains e.1 then Evaluated.misfit "unexpected keyword argument"
    else if kind ≠ .type ∧ !constraints.isEmpty then Evaluated.misfit "too many arguments"
    else if flag "covariant" && flag "contravariant" then
      throw (.raised .invalidValue "Bivariant types are not supported.")
    else
      let bound ← match a.named.lookup "bound" with
        | some m => if m.isTruthy then Meaning.typeOf "Bound must be a type." m else pure .nothing
        | none => pure .nothing
      if !constraints.isEmpty && (a.named.lookup "bound").any fun m => !(m matches .nothing) then
        Evaluated.refused "Constraints cannot be combined with bound=..."
      else if constraints.length = 1 then Evaluated.refused "A single constraint is not allowed"
      else
        let constraints ← constraints.mapM
          (fun m => Meaning.typeOf "TypeVar(name, constraint, ...): constraints must be types." m)
        let variance := if flag "covariant" then '+' else if flag "contravariant" then '-' else '~'
        return .variable kind name.plain variance bound constraints
  | [] => Evaluated.misfit "missing argument"

/-- A reference to a type. -/
def reference : Maker := taking ["arg", "is_argument", "module"] 1 fun _ g =>
  match g.head?.join with
  | some (.text s) => do return (← Meaning.referenceTo s)
  | some .unknown => return .unknown
  | some m => Evaluated.refused ("Forward reference must be a string -- got " ++ m.shown)
  | none => Evaluated.misfit "missing argument"

/-- A type of another name, which stands behind the last point. -/
def newType (k : Machine) (g : Given) : Evaluation Meaning := do
  match g with
  | [some (.text name), some base] => return .newType (Catalogue.shortName name) base
  | [some name, some base] =>
    if ← Meaning.contains name (.text ".") (.ok (← k.items name)) then
      return (← Evaluated.lacking name "rpartition")
    else return .newType name.plain base
  | _ => Evaluated.misfit "missing argument"

/-! ## Failures -/

/-- Whether a value is an instance of failures. -/
def isFailure (isAny : Bool) (m : Meaning) : Bool :=
  m.classOf.isBelow (if isAny then "BaseException" else "Exception")

/-- Refuse arguments that a group of failures cannot hold: it takes a text and a row of failures
that is not empty. -/
def checkGroup (isAny : Bool) : List Meaning → Evaluated Unit
  | [.text _, m] =>
    if !(m.isA "collections.abc.Sequence") then
      Evaluated.misfit "second argument (exceptions) must be a sequence"
    else
      match m.items? with
      | some [] => Evaluated.invalid "second argument (exceptions) must be a non-empty sequence"
      | some items =>
        if !(items.all (isFailure true)) then
          Evaluated.invalid "Item of second argument (exceptions) is not an exception"
        else if items.all (isFailure isAny) then .ok ()
        else Evaluated.misfit "Cannot nest BaseExceptions in an ExceptionGroup"
      | none => .ok ()
  | [_, _] => Evaluated.misfit "argument 1 must be str"
  | _ => Evaluated.misfit "function takes exactly 2 arguments"

/-- Refuse arguments that a failure of a class cannot hold. -/
def checkFailure (k : Machine) (c : Meaning) (a : Arguments) : Evaluation Unit := do
  let isNamed := c.isBelow "ImportError"
  if a.named.any fun e => !(isNamed && (e.1 == "name" || e.1 == "path")) then
    Evaluated.misfit "takes no keyword arguments"
  else if c.isBelow "BaseExceptionGroup" then
    checkGroup (!(c.isBelow "ExceptionGroup")) a.positional
  else if c.isBelow "SyntaxError" then
    match a.positional with
    | [_, place] =>
      let n := (← k.items place).length
      if n < 4 ∨ 6 < n then Evaluated.misfit "function takes 4 to 6 arguments"
    | _ => return ()
  else if c.isBelow "UnicodeError" then
    match c.fullName, a.positional with
    | "UnicodeDecodeError", [.text _, .bytes .., .integer _, .integer _, .text _] => return ()
    | "UnicodeEncodeError", [.text _, .text _, .integer _, .integer _, .text _] => return ()
    | "UnicodeTranslateError", [.text _, .integer _, .integer _, .text _] => return ()
    | "UnicodeError", _ => return ()
    | _, _ => Evaluated.misfit "function takes other arguments"

/-! ## All classes -/

/-- An object that keeps its arguments. -/
def keeping (kind : String) (required most : Nat) : Maker := fun _ a => do
  let items ← a.unnamed
  if items.length < required ∨ most < items.length then Evaluated.misfit "wrong number of arguments"
  else return Meaning.instanceOf kind items

/-- A class that refuses to be called. -/
def refusing (message : String) : Maker := fun _ _ => Evaluated.refused message

/-- A class whose only instance a call gives. -/
def only (m : Meaning) : Maker := pureFrom [] 0 fun _ => .ok m

/-- How the classes of the catalogue make instances. -/
def makers : List (String × Maker) :=
  [("bool", pureFrom [""] 0 fun g => .ok (.truth (g.head?.join.any Meaning.isTruthy))),
   ("int", pureFrom ["", "base"] 0 integer), ("float", pureFrom [""] 0 real),
   ("complex", pureFrom ["real", "imag"] 0 complex),
   ("str", pureFrom ["object", "encoding", "errors"] 0 text),
   ("bytes", taking ["source", "encoding", "errors"] 0 (bytes false)),
   ("bytearray", taking ["source", "encoding", "errors"] 0 (bytes true)),
   ("list", collection fun items => .ok (.list items)),
   ("tuple", collection fun items => .ok (.tuple items)),
   ("set", collection (setOf false)), ("frozenset", collection (setOf true)),
   ("dict", dict "dict"), ("collections.OrderedDict", dict "collections.OrderedDict"),
   ("collections.defaultdict", defaultDict), ("collections.Counter", counter),
   ("collections.deque", taking ["iterable", "maxlen"] 0 fun k g => do
     let items ← match g.head?.join with
       | some m => k.items m
       | none => pure []
     let dropped ← match (g.drop 1).head?.join with
       | none => pure 0
       | some .nothing => pure 0
       | m => do
         let most ← TextMethod.placeOf m
         if most < 0 then Evaluated.invalid "maxlen must be non-negative"
         else pure (items.length - most.toNat)
     return Meaning.instanceOf "collections.deque" (items.drop dropped)),
   ("range", range), ("slice", slice), ("type", type), ("abc.ABCMeta", type),
   ("object", only (Meaning.instanceOf "object" [])),
   ("NoneType", only .nothing), ("ellipsis", only .ellipsis),
   ("NotImplementedType", only .unimplemented),
   ("enumerate", numbered), ("map", mapped), ("filter", filtered), ("reversed", backwards),
   ("zip", zipped),
   ("super", fun _ a => do
     match ← a.unnamed with
     | [] => throw (.elementary .runtime "super(): no arguments")
     | [c] =>
       if c.isClass then return Meaning.instanceOf "super" []
       else Evaluated.misfit "super() argument 1 must be a type"
     | [c, m] =>
       if c.isClass && (m.classOf.isSubclass c || m.isSubclass c) then
         return Meaning.instanceOf "super" []
       else Evaluated.misfit "super(type, obj): obj must be an instance or subtype of type"
     | _ => Evaluated.misfit "super expected at most 2 arguments"),
   ("classmethod", keeping "classmethod" 1 1), ("staticmethod", keeping "staticmethod" 1 1),
   ("property", taking ["fget", "fset", "fdel", "doc"] 0 fun _ g =>
     return Meaning.instanceOf "property" (g.map fun m => m.getD .nothing)),
   ("memoryview", pureFrom ["object"] 1 fun g =>
     match g.head?.join with
     | some (.bytes bs _) => .ok (Meaning.instanceOf "memoryview" (bs.map Meaning.ofByte))
     | _ => Evaluated.misfit "memoryview: a bytes-like object is required"),
   ("module", taking ["name", "doc"] 1 fun _ g =>
     match g.head?.join with
     | some (.text _) => return Meaning.instanceOf "module" []
     | _ => Evaluated.misfit "module() argument 'name' must be str"),
   ("types.SimpleNamespace", fun _ a =>
     if a.positional.isEmpty then
       return .object (.made "SimpleNamespace" [.type "types.SimpleNamespace"] a.named) []
     else Evaluated.misfit "no positional arguments expected"),
   ("mappingproxy", pureFrom [""] 1 fun g =>
     match g.head?.join.getD .nothing with
     | .list _ => Evaluated.misfit "mappingproxy() argument must be a mapping"
     | .tuple _ => Evaluated.misfit "mappingproxy() argument must be a mapping"
     | m =>
       if m.classOf.hasMember "__getitem__" || (m matches .unknown) then
         .ok (Meaning.instanceOf "mappingproxy" [])
       else Evaluated.misfit "mappingproxy() argument must be a mapping"),
   ("method", pureFrom ["", ""] 2 fun g =>
     match g with
     | [_, some .nothing] => Evaluated.misfit "self must not be None"
     | [some f, some m] =>
       if f.classOf.hasMember "__call__" then
         .ok (Meaning.instanceOf "functools.partial" [f, .tuple [m], .dict "dict" []])
       else Evaluated.misfit "first argument must be callable"
     | _ => Evaluated.misfit "method expected 2 arguments"),
   ("cell", keeping "cell" 0 1),
   ("collections.ChainMap", keeping "collections.ChainMap" 0 1000),
   ("collections.UserDict", fun k a => do
     let first := match a.positional with
       | [.nothing] => []
       | given => given
     let _ ← dict "dict" k { a with positional := first }
     return Meaning.instanceOf "collections.UserDict" []),
   ("collections.UserList", taking ["initlist"] 0 fun k g => do
     let items ← match g.head?.join with
       | none => pure []
       | some .nothing => pure []
       | some m => k.items m
     return Meaning.instanceOf "collections.UserList" items),
   ("collections.UserString", pureFrom ["seq"] 1 fun _ =>
     .ok (Meaning.instanceOf "collections.UserString" [])),
   ("types.GenericAlias", pureFrom ["", ""] 2 fun g =>
     match g with
     | [some origin, some parameters] => .ok (.generic origin parameters.asTuple false)
     | _ => Evaluated.misfit "missing argument"),
   ("functools.partial", fun _ a =>
     match a.positional with
     | f :: rest =>
       if f.classOf.hasMember "__call__" then
         return Meaning.instanceOf "functools.partial"
           [f, .tuple rest, .dict "dict" (namedEntries a)]
       else Evaluated.misfit "the first argument must be callable"
     | [] => Evaluated.misfit "missing argument"),
   ("operator.itemgetter", keeping "operator.itemgetter" 1 100),
   ("operator.attrgetter", fun k a =>
     if a.positional.all Meaning.isText then keeping "operator.attrgetter" 1 100 k a
     else Evaluated.misfit "attribute name must be a string"),
   ("operator.methodcaller", fun _ a =>
     match a.positional with
     | .text name :: rest =>
       return Meaning.instanceOf "operator.methodcaller"
         [.text name, .tuple rest, .dict "dict" (namedEntries a)]
     | _ => Evaluated.misfit "method name must be a string"),
   ("typing.TypeVar", typeVariable .type), ("typing.ParamSpec", typeVariable .parameters),
   ("typing.TypeVarTuple", typeVariable .types), ("typing.ForwardRef", reference),
   ("typing.NewType", taking ["name", "tp"] 2 newType),
   ("typing.ParamSpecArgs", keeping "typing.ParamSpecArgs" 1 1),
   ("typing.ParamSpecKwargs", keeping "typing.ParamSpecKwargs" 1 1),
   ("typing.Any", refusing "Any cannot be instantiated"),
   ("typing.Annotated", refusing "Type Annotated cannot be instantiated.")]

/-- Elementary classes that cannot be called. -/
def closedClasses : String :=
  "async_generator builtin_function_or_method bytearray_iterator bytes_iterator " ++
  "callable_iterator classmethod_descriptor code coroutine dict_itemiterator dict_items " ++
  "dict_keyiterator dict_keys dict_reverseitemiterator dict_reversekeyiterator " ++
  "dict_reversevalueiterator dict_valueiterator dict_values function generator " ++
  "getset_descriptor list_iterator list_reverseiterator longrange_iterator member_descriptor " ++
  "memory_iterator method method-wrapper method_descriptor range_iterator set_iterator " ++
  "str_ascii_iterator str_iterator tuple_iterator types.UnionType wrapper_descriptor re.Match " ++
  "re.Pattern"

/-- The abstract collections that have instances of their own. -/
def concreteViews : List String := ["MappingView", "KeysView", "ItemsView", "ValuesView"]

/-- Whether a class is abstract. -/
def isAbstract (name : String) : Bool :=
  (Catalogue.libraryOf name == "collections.abc" &&
      !concreteViews.contains (Catalogue.shortName name)) ||
    (Catalogue.libraryOf name == "contextlib")

/-- An instance of a class of the catalogue. -/
def ofCatalogue (k : Machine) (name : String) (a : Arguments) : Evaluation Meaning :=
  match makers.lookup name with
  | some maker => maker k a
  | none =>
    let c : Meaning := .type name
    if c.isBelow "BaseException" then
      do
        checkFailure k c a
        return .object c a.positional
    else if (Catalogue.protocols.lookup name).isSome || isAbstract name ||
        (Catalogue.wordsOf closedClasses).contains name then
      Evaluated.misfit "cannot create instances"
    else if Catalogue.libraryOf name = "collections.abc" then keeping name 1 1 k a
    else if (c.isBelow "typing.Generic" || name == "abc.ABC") &&
        !(a.positional.isEmpty && a.named.isEmpty) then
      Evaluated.misfit "takes no arguments"
    else return .object c []

/-- A tuple of a class that gives names to its places, each of which must be given. -/
def namedPlaces (c : Meaning) (fields : List Meaning) (a : Arguments) : Evaluated Meaning := do
  let given ← a.bind (fields.filterMap Meaning.text?) fields.length
  return .object c (given.filterMap id)

/-- An instance of a class that an expression made: it is made as the first class of the catalogue
makes one from which the class descends, after the functions of the class for that.  Classes of
dictionaries with given keys make plain dictionaries. -/
def ofMade (k : Machine) (c : Meaning) (a : Arguments) : Evaluation Meaning := do
  match c.madeMember? "__new__", c.madeMember? "_fields", c.madeMember? "__total__" with
  | some f, _, _ => k.call f { a with positional := c :: a.positional }
  | none, some (.tuple fields), _ => return (← namedPlaces c fields a)
  | none, none, some _ => dict "dict" k a
  | none, _, _ =>
    match c.madeMember? "__init__" with
    | some f =>
      let made := Meaning.object c []
      match ← k.call f { a with positional := made :: a.positional } with
      | .nothing => return made
      | _ => Evaluated.misfit "__init__() should return None"
    | none =>
      let base := (c.ancestors.filterMap fun d =>
        match d with
        | .type name => some name
        | _ => none).head?.getD "object"
      if base = "object" then
        if a.positional.isEmpty ∧ a.named.isEmpty then return .object c []
        else Evaluated.misfit "takes no arguments"
      else
        match ← ofCatalogue k base a with
        | .list items => return .object c items
        | .tuple items => return .object c items
        | .set items _ => return .object c items
        | .object _ contents => return .object c contents
        | .unknown => return .unknown
        | m => return .object c [m]

end Construction
end Annotation
end BoundUpdate
