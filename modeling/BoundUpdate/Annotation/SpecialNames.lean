import BoundUpdate.Annotation.Methods
import BoundUpdate.Annotation.NumberFunctions

namespace BoundUpdate
namespace Annotation
namespace Method

/-!
# Special names

Operators, comparisons, conversions and changes of items are functions with
special names.  Most of those for operators answer that nothing is implemented
when their operands do not fit; those of texts, lists and types refuse them.
-/

/-- The special names of operators. -/
def operatorNames : List (String × BinaryOperator) :=
  [("add", .add), ("sub", .subtract), ("mul", .multiply), ("matmul", .multiplyMatrices),
   ("truediv", .divide), ("floordiv", .divideFloor), ("mod", .modulo), ("pow", .power),
   ("lshift", .shiftLeft), ("rshift", .shiftRight), ("and", .bitAnd), ("xor", .bitXor),
   ("or", .bitOr)]

/-- The special names of comparisons. -/
def comparisonNames : List (String × Comparison) :=
  [("eq", .equal), ("ne", .unequal), ("lt", .less), ("le", .lessEqual), ("gt", .greater),
   ("ge", .greaterEqual)]

/-- The name between the low lines of a special name. -/
def innerName? (name : String) : Option String :=
  if Meaning.isSpecial name then some (String.ofList ((name.toList.drop 2).dropLast.dropLast))
  else none

/-- Whether an operator of a value refuses operands that do not fit. -/
def refusesOperands (m : Meaning) (o : BinaryOperator) : Bool :=
  match m with
  | .text _ => o == .add || o == .multiply || o == .modulo
  | .bytes .. => o == .add || o == .multiply || o == .modulo
  | .tuple _ => true
  | .list _ => true
  | .object c _ => o == .add || o == .multiply || ["dict_keys", "dict_items"].contains c.fullName
  | .template _ => true
  | .applied .. => true
  | .annotated .. => true
  | .form _ => true
  | .variable .. => true
  | .newType .. => true
  | .reference _ => true
  | _ => false

/-- A result in which misfitting operands are no failure. -/
def orUnimplemented (e : Evaluated Meaning) : Evaluated Meaning :=
  match e with
  | .ok m => .ok m
  | .error failure => if isMisfit failure then .ok .unimplemented else .error failure

/-- The result of an operator of a value. -/
def operated (o : BinaryOperator) (m other : Meaning) : Evaluated Meaning :=
  if refusesOperands m o then Meaning.binary o m other
  else orUnimplemented (Meaning.binary o m other)

/-- The result of an operator of a value that stands behind it. -/
def reflected (o : BinaryOperator) (m other : Meaning) : Evaluated Meaning :=
  let isRefused := refusesOperands m o &&
    (o != .modulo || Meaning.sameClass m.classOf other.classOf)
  if isRefused then Meaning.binary o other m else orUnimplemented (Meaning.binary o other m)

/-- An integer that stands for a value in tables, alike for equal values. -/
def hashOf (m : Meaning) : Evaluated Meaning :=
  if m.isKey then
    match m.integer?, m with
    | some n, _ => .ok (.integer (Number.tableCode n))
    | none, .real x =>
      match x.toInt? with
      | some n => .ok (.integer (Number.tableCode n))
      | none => .ok (Meaning.instanceOf "int" [.text "hash", m])
    | none, m => .ok (Meaning.instanceOf "int" [.text "hash", m])
  else Evaluated.misfit "unhashable"

/-- The absolute value of a number. -/
def absolute (m : Meaning) : Evaluated Meaning :=
  match m.figure? with
  | some (.integer n) => .ok (.integer n.natAbs)
  | some (.real x) => .ok (.real x.abs)
  | some (.complex x y) =>
    match x.hypotenuse y, x, y with
    | .infinity _, .finite .., .finite .. => Evaluated.overflow
    | z, _, _ => .ok (.real z)
  | none => if m.isVagueNumber then .ok m else Evaluated.misfit "bad operand type for abs()"

/-- The length of a value. -/
def lengthOf (m : Meaning) : Evaluated Meaning :=
  match m.length?, m with
  | some n, _ => if Meaning.greatestPlace < n then Evaluated.overflow else .ok (.integer n)
  | none, .unknown => .ok .unknown
  | none, _ => Evaluated.misfit "object has no len()"

/-- The functions with special names that take nothing. -/
def specialAlone : List (String × (Meaning → Evaluated Meaning)) :=
  [("bool", fun m => .ok (.truth m.isTruthy)), ("len", lengthOf), ("hash", hashOf),
   ("repr", fun m => do return .text (← m.inFull)), ("str", fun m => do return .text (← m.inShort)),
   ("abs", absolute), ("neg", Meaning.unary .minus), ("pos", Meaning.unary .plus),
   ("invert", Meaning.unary .invert), ("int", Construction.integerFrom),
   ("index", Construction.integerFrom), ("trunc", Construction.integerFrom),
   ("floor", Meaning.floor), ("ceil", Meaning.ceiling),
   ("float", fun m => Construction.real [some m]),
   ("complex", fun m => Construction.complex [some m, none]),
   ("bytes", .ok), ("aiter", .ok), ("copy", .ok), ("enter", .ok),
   ("getnewargs", fun m => .ok (.tuple [m])), ("reduce", fun _ => .ok .unknown),
   ("length_hint", fun m => .ok (.integer (held m).length)), ("del", fun _ => .ok .nothing),
   ("alloc", fun _ => .ok .unknown),
   ("dir", fun _ => .ok .unknown), ("sizeof", fun _ => .ok .unknown),
   ("subclasses", fun _ => .ok .unknown)]

/-- The functions with special names that take another value. -/
def specialWithOne : List (String × (Meaning → Meaning → Evaluated Meaning)) :=
  [("getitem", Meaning.subscripted),
   ("divmod", fun m other => orUnimplemented (Meaning.quotientAndRest m other)),
   ("rdivmod", fun m other => orUnimplemented (Meaning.quotientAndRest other m)),
   ("format", fun m spec =>
     match spec with
     | .text s => do return .text (← m.formatted s)
     | .unknown => .ok .unknown
     | _ => Evaluated.misfit "__format__() argument must be str"),
   ("getattribute", fun m name =>
     match name with
     | .text name => Meaning.memberOf m name
     | .unknown => .ok .unknown
     | _ => Evaluated.misfit "attribute name must be string"),
   ("imul", Meaning.binary .multiply), ("iand", operated .bitAnd), ("isub", operated .subtract),
   ("ixor", operated .bitXor),
   ("delitem", fun m key => do
     let _ ← (if m matches .dict .. then Meaning.itemOfKey "dict" (entries m) key
       else if (m matches .object ..) && !(m.isA "collections.deque") then
         Evaluated.misfit "cannot delete memory"
       else Meaning.subscripted m key)
     return .nothing),
   ("missing", fun m key =>
     if !key.isKey then Evaluated.misfit "unhashable key"
     else if m.isA "collections.Counter" then .ok (.integer 0)
     else .ok .unknown),
   ("getformat", fun _ name =>
     match name with
     | .text "double" => .ok (.text "IEEE, little-endian")
     | .text "float" => .ok (.text "IEEE, little-endian")
     | .text _ => Evaluated.invalid "__getformat__() argument 1 must be 'double' or 'float'"
     | _ => Evaluated.misfit "__getformat__() argument must be str"),
   ("deepcopy", fun m _ => .ok m), ("reduce_ex", fun _ _ => .ok .unknown),
   ("mro_entries", fun _ _ => .ok .unknown), ("typing_subst", fun _ _ => .ok .unknown)]

/-- Give an item a value. -/
def setItem : Method := fun k m a => do
  match ← a.unnamed with
  | [key, value] =>
    match m, key with
    | .dict .., key =>
      if key.isKey then return .nothing else Evaluated.misfit "unhashable key"
    | m, .slice .. =>
      let _ ← k.items value
      let _ ← (Meaning.subscripted m key : Evaluated Meaning)
      return .nothing
    | m, key =>
      let _ ← (Meaning.subscripted m key : Evaluated Meaning)
      if m matches .bytes .. then
        let _ ← (Construction.byteOf value : Evaluated UInt8)
      return .nothing
  | _ => Evaluated.misfit "expected 2 arguments"

/-- Add the items of a value. -/
def addItems : Method := fun k m a => do
  match ← a.unnamed, m with
  | [items], .list known => return .list (known ++ (← k.items items))
  | [.object c more], .object d known =>
    if c.isBelow "collections.deque" then return .object d (known ++ more)
    else return .object d (known ++ (← k.items (.object c more)))
  | [items], .object d known => return .object d (known ++ (← k.items items))
  | [other], m => return (← Meaning.binary .add m other)
  | _, _ => Evaluated.misfit "expected 1 argument"

/-- Add the entries or items of a value. -/
def uniteWith : Method := fun k m a => do
  match ← a.unnamed, m with
  | [items], .dict kind known =>
    return .dict kind (Meaning.merged known (← Construction.entriesOf k items))
  | [other], m => return (← operated .bitOr m other)
  | _, _ => Evaluated.misfit "expected 1 argument"

/-- A power with an optional divisor. -/
def powerOf (isReflected : Bool) : Method := taking ["", ""] 1 fun m g =>
  let other := g.head?.join.getD .nothing
  let modulus := (g.drop 1).head?.join.getD .nothing
  orUnimplemented (if isReflected then Meaning.power other m modulus
    else Meaning.power m other modulus)

/-- A number rounded. -/
def round : Method := taking [""] 0 fun m g =>
  match m, g.head?.join with
  | m, none => Meaning.rounded m .nothing
  | .real x, some places => Meaning.rounded (.real x) places
  | m, some places => do
    Meaning.rounded m (.integer (← TextMethod.integerOf (some places)))

/-- Whether a value can be run through for its next item. -/
def isIterator (m : Meaning) : Bool :=
  (m matches .generator ..) || m.classOf.hasMember "__next__"

/-- The class of the iterators over the items of a value. -/
def iteratorName (m : Meaning) : String :=
  match m with
  | .text s => if s.toList.all fun c => c.toNat < 128 then "str_ascii_iterator" else "str_iterator"
  | .dict kind _ =>
    if kind = "collections.OrderedDict" then "odict_iterator" else "dict_keyiterator"
  | .set .. => "set_iterator"
  | m =>
    let kind := m.typeName ++ "_iterator"
    if (Catalogue.find? kind).isSome then kind else "list_iterator"

/-- The class of the iterators over the items of a value in the other order. -/
def backwardsName (m : Meaning) : String :=
  match m with
  | .list _ => "list_reverseiterator"
  | .dict kind _ =>
    if kind = "collections.OrderedDict" then "odict_iterator" else "dict_reversekeyiterator"
  | .range .. => "range_iterator"
  | _ => "reversed"

/-- An iterator over the items of a value. -/
def iterated : Method := fun k m a => do
  if !(a.positional.isEmpty && a.named.isEmpty) then Evaluated.misfit "expected 0 arguments"
  else if (m matches .unknown) || isIterator m then return m
  else return Construction.iterator (iteratorName m) (← k.items m)

/-- An iterator over the items of a value in the other order. -/
def backwards : Method := fun k m a => do
  if !(a.positional.isEmpty && a.named.isEmpty) then Evaluated.misfit "expected 0 arguments"
  else return Construction.iterator (backwardsName m) (← k.items m).reverse

/-- The functions with special names that run expressions or take a number of arguments of their
own. -/
def specialAny : List (String × Method) :=
  [("contains", fun k m a => do
     match ← a.unnamed with
     | [item] => do return .truth (← Meaning.contains m item (.ok (← k.items m)))
     | _ => Evaluated.misfit "expected 1 argument"),
   ("next", fun k m a =>
     if a.positional.isEmpty && a.named.isEmpty then firstItem k m
     else Evaluated.misfit "expected 0 arguments"),
   ("iter", iterated), ("reversed", backwards), ("call", fun k m a => k.call m a),
   ("init", fun _ _ _ => return .nothing),
   ("pow", powerOf false), ("rpow", powerOf true), ("round", round), ("setitem", setItem),
   ("iadd", addItems), ("ior", uniteWith)]

/-- A function with a special name; `none` when it is not known. -/
def special? (name : String) : Option Method :=
  (innerName? name).bind fun inner =>
    let behind := if inner.startsWith "r" then String.ofList (inner.toList.drop 1) else ""
    specialAny.lookup inner <|> (specialAlone.lookup inner).map alone <|>
      (specialWithOne.lookup inner).map withOne <|>
      (operatorNames.lookup inner).map (fun o => withOne (operated o)) <|>
      (comparisonNames.lookup inner).map (fun c => withOne fun m other =>
        orUnimplemented ((Meaning.compared c m other (.ok [])).map Meaning.truth)) <|>
      (operatorNames.lookup behind).map (fun o => withOne (reflected o))

end Method
end Annotation
end BoundUpdate
