import BoundUpdate.Annotation.Catalogue.Arguments
import BoundUpdate.Annotation.Catalogue.Collections
import BoundUpdate.Annotation.Catalogue.Elementary
import BoundUpdate.Annotation.Catalogue.Failures
import BoundUpdate.Annotation.Catalogue.Templates
import BoundUpdate.Annotation.Meaning
import BoundUpdate.Text.Split

namespace BoundUpdate
namespace Annotation

/-!
# Classes

A class descends from its bases, and counts as an abstract class when it has
the members that the abstract class asks for.  Every value is an instance of
one class.
-/

namespace Catalogue

/-- All classes of the catalogue. -/
def rows : List Row := elementary ++ templates ++ collections ++ failures ++ arguments

/-- The row of a class. -/
def find? (name : String) : Option Row := rows.find? fun row => row.name == name

/-- The members that every class has. -/
def commonMembers : List String :=
  ["__class__", "__delattr__", "__dir__", "__doc__", "__eq__", "__format__", "__ge__",
   "__getattribute__", "__getstate__", "__gt__", "__hash__", "__init__", "__init_subclass__",
   "__le__", "__lt__", "__ne__", "__new__", "__reduce__", "__reduce_ex__", "__repr__",
   "__setattr__", "__sizeof__", "__str__", "__subclasshook__"]

/-- The words of a text between blanks. -/
def wordsOf (s : String) : List String :=
  ((Text.splitOn ' ' s.toList).filter fun w => !w.isEmpty).map String.ofList

/-- The members that an abstract class asks for, where members alone decide. -/
def requirements : List (String × List String) :=
  [("Hashable", ["__hash__"]), ("Iterable", ["__iter__"]), ("Iterator", ["__iter__", "__next__"]),
   ("Reversible", ["__reversed__", "__iter__"]), ("Sized", ["__len__"]),
   ("Container", ["__contains__"]), ("Collection", ["__len__", "__iter__", "__contains__"]),
   ("Callable", ["__call__"]), ("Awaitable", ["__await__"]), ("AsyncIterable", ["__aiter__"]),
   ("AsyncIterator", ["__anext__", "__aiter__"]),
   ("AbstractContextManager", ["__enter__", "__exit__"])]

/-- The members that protocols of the library of templates ask for. -/
def protocols : List (String × String) :=
  [("typing.SupportsAbs", "__abs__"), ("typing.SupportsBytes", "__bytes__"),
   ("typing.SupportsComplex", "__complex__"), ("typing.SupportsFloat", "__float__"),
   ("typing.SupportsIndex", "__index__"), ("typing.SupportsInt", "__int__"),
   ("typing.SupportsRound", "__round__")]

/-- The last part of a full name. -/
def shortName (name : String) : String :=
  match Text.cutLast? '.' name.toList with
  | some (_, last) => String.ofList last
  | none => name

/-- The library of a class. -/
def libraryOf (name : String) : String :=
  match Text.cutLast? '.' name.toList with
  | some (library, _) => String.ofList library
  | none => "builtins"

end Catalogue

namespace Meaning

/-- The bases of a class. -/
def bases : Meaning → List Meaning
  | .type name => ((Catalogue.find? name).map fun row => row.bases.map Meaning.type).getD []
  | .made _ bases _ => if bases.isEmpty then [.type "object"] else bases
  | _ => []

/-- Whether a value is a class. -/
def isClass : Meaning → Bool
  | .type _ => true
  | .made .. => true
  | _ => false

/-- Whether two values are one class; classes of one name and equal bases are not told apart. -/
def sameClass : Meaning → Meaning → Bool
  | .type a, .type b => a == b
  | .made a xs _, .made b ys _ => a == b && xs.length == ys.length
  | _, _ => false

/-- Classes without repetitions; the last place of each counts. -/
def lastPlaces : List Meaning → List Meaning
  | [] => []
  | c :: rest => if rest.any (sameClass c) then lastPlaces rest else c :: lastPlaces rest

/-- A class and all it descends from; `fuel` bounds the length of a line of descent. -/
def ancestorsWithin : (fuel : Nat) → Meaning → List Meaning
  | 0, c => [c]
  | fuel + 1, c => c :: lastPlaces (c.bases.flatMap (ancestorsWithin fuel))

/-- A class and all it descends from, in the order in which members are looked up. -/
def ancestors (c : Meaning) : List Meaning := lastPlaces (ancestorsWithin 12 c)

/-- The members of a class itself. -/
def ownMembers : Meaning → List String
  | .type name =>
    if name = "object" then Catalogue.commonMembers
    else ((Catalogue.find? name).map fun row => Catalogue.wordsOf row.members).getD []
  | .made _ _ members => members.map Prod.fst
  | _ => []

/-- The class among the ancestors that has a member. -/
def ownerOf? (c : Meaning) (member : String) : Option Meaning :=
  c.ancestors.find? fun a => a.ownMembers.contains member

/-- Whether instances of a class have a member. -/
def hasMember (c : Meaning) (member : String) : Bool := (c.ownerOf? member).isSome

/-- The member that the members of made classes among the ancestors hold. -/
def madeMember? (c : Meaning) (member : String) : Option Meaning :=
  c.ancestors.findSome? fun a =>
    match a with
    | .made _ _ members => members.lookup member
    | _ => none

/-- Whether a member of a class is there and not nothing. -/
def offers (c : Meaning) (member : String) : Bool :=
  c.hasMember member &&
    !(match c.madeMember? member with
      | some .nothing => true
      | _ => false)

/-- Whether a class counts as an abstract class without descending from it. -/
def countsAs (c : Meaning) (abstractName : String) : Bool :=
  let short := Catalogue.shortName abstractName
  let isClosed := short == "Iterable" && c.ancestors.any (sameClass (.type "typing._NotIterable"))
  !isClosed && (c.ancestors.any fun a =>
    match a with
    | .type name =>
      ((Catalogue.find? name).map fun row => (Catalogue.wordsOf row.counts).contains short).getD
        false
    | _ => false) ||
    (match c, Catalogue.requirements.lookup short with
      | .made .., some members => members.all c.offers
      | _, _ => false)

/-- Whether instances of a class may be keys. -/
def allowsKeys (c : Meaning) : Bool :=
  c.ancestors.all fun a =>
    match a with
    | .type name => ((Catalogue.find? name).map (·.isHashable)).getD true
    | _ => true

/-- Whether a class descends from another one or counts as it. -/
def isSubclass (c d : Meaning) : Bool :=
  c.ancestors.any (sameClass d) ||
    (match d with
      | .type name =>
        if name = "collections.abc.Hashable" then c.allowsKeys
        else
          match Catalogue.protocols.lookup name with
          | some member => c.hasMember member
          | none =>
            (Catalogue.libraryOf name == "collections.abc" ||
              Catalogue.libraryOf name == "contextlib") && c.countsAs name
      | _ => false)

/-- Classes of libraries whose instances do not know the library. -/
def silentClasses : List String :=
  ["collections.OrderedDict", "collections.defaultdict", "collections.deque", "types.GenericAlias",
   "types.SimpleNamespace", "types.UnionType", "datetime.date", "datetime.datetime",
   "datetime.timedelta", "datetime.timezone", "datetime.tzinfo"]

/-- Whether the instances of a class know which library the class belongs to. -/
def tellsLibrary (c : Meaning) : Bool :=
  c.ancestors.any fun a =>
    match a with
    | .made .. => true
    | .type name => name == "ExceptionGroup" ||
        (Catalogue.libraryOf name != "builtins" && !silentClasses.contains name)
    | _ => false

/-- Whether a class descends from a class of the catalogue or counts as it. -/
def isBelow (c : Meaning) (name : String) : Bool := c.isSubclass (.type name)

/-- The class of the instances that a style of application makes. -/
def classOfStyle : Application → String
  | .plain => "typing._GenericAlias"
  | .function => "typing._CallableGenericAlias"
  | .union => "typing._UnionGenericAlias"
  | .literal => "typing._LiteralGenericAlias"
  | .concatenated => "typing._ConcatenateGenericAlias"
  | .unpacked => "typing._UnpackGenericAlias"

/-- The class of a template. -/
def classOfTemplate (name : String) : String :=
  if name = "Callable" then "typing._CallableType"
  else if name = "Tuple" then "typing._TupleType"
  else "typing._SpecialGenericAlias"

/-- Whether a name belongs to a library. -/
def isQualified (name : String) : Bool := name.toList.contains '.'

/-- The special names of the functions that stand for operations of a class. -/
def operationNames : String :=
  "__repr__ __hash__ __str__ __getattribute__ __setattr__ __delattr__ __lt__ __le__ __eq__ " ++
  "__ne__ __gt__ __ge__ __init__ __call__ __iter__ __next__ __len__ __add__ __radd__ __sub__ " ++
  "__rsub__ __mul__ __rmul__ __mod__ __rmod__ __divmod__ __rdivmod__ __pow__ __rpow__ __neg__ " ++
  "__pos__ __abs__ __bool__ __invert__ __lshift__ __rlshift__ __rshift__ __rrshift__ __and__ " ++
  "__rand__ __xor__ __rxor__ __or__ __ror__ __int__ __float__ __floordiv__ __rfloordiv__ " ++
  "__truediv__ __rtruediv__ __index__ __iadd__ __isub__ __imul__ __iand__ __ior__ __ixor__ " ++
  "__setitem__ __delitem__ __get__ __set__ __delete__"

/-- Whether a name is the special name of an operation. -/
def namesOperation (name : String) : Bool := (Catalogue.wordsOf operationNames).contains name

/-- Whether a name is the special name of an operation of a class; containers that look an item up
by a function of their own have no such operation. -/
def namesOperationOf (kind name : String) : Bool :=
  if name = "__contains__" then !(["dict", "set", "frozenset"].contains kind)
  else if name = "__getitem__" then !(["dict", "list"].contains kind)
  else namesOperation name

/-- The names of data that instances of a class tell by computing them. -/
def computedNames : List String :=
  ["real", "imag", "numerator", "denominator", "year", "month", "day", "hour", "minute", "second",
   "microsecond", "fold", "tzinfo"]

/-- The names of data that instances of a class hold. -/
def heldNames : List String := ["start", "stop", "step"]

/-- The class of what a class holds for its instances under a name. -/
def classOfUnbound (kind name : String) : String :=
  if namesOperationOf kind name then "wrapper_descriptor"
  else if computedNames.contains name then "getset_descriptor"
  else if heldNames.contains name then "member_descriptor"
  else "method_descriptor"

/-- The class that a value is an instance of. -/
def classOf : Meaning → Meaning
  | .nothing => nothingType
  | .unimplemented => .type "NotImplementedType"
  | .ellipsis => .type "ellipsis"
  | .truth _ => .type "bool"
  | .integer _ => .type "int"
  | .real _ => .type "float"
  | .complex .. => .type "complex"
  | .text _ => .type "str"
  | .bytes _ isMutable => .type (if isMutable then "bytearray" else "bytes")
  | .tuple _ => .type "tuple"
  | .list _ => .type "list"
  | .set _ isFrozen => .type (if isFrozen then "frozenset" else "set")
  | .dict kind _ => .type kind
  | .slice .. => .type "slice"
  | .range .. => .type "range"
  | .type name => .type (((Catalogue.find? name).map (·.kind)).getD "type")
  | .made _ _ members =>
    .type (if (members.lookup "__total__").isSome then "typing._TypedDictMeta" else "type")
  | .form name =>
    .type (if name = "Literal" then "typing._LiteralSpecialForm" else "typing._SpecialForm")
  | .template name => .type (classOfTemplate name)
  | .generic .. => .type "types.GenericAlias"
  | .applied style .. => .type (classOfStyle style)
  | .barred _ => .type "types.UnionType"
  | .annotated .. => .type "typing._AnnotatedAlias"
  | .reference _ => .type "typing.ForwardRef"
  | .variable .type .. => .type "typing.TypeVar"
  | .variable .parameters .. => .type "typing.ParamSpec"
  | .variable .types .. => .type "typing.TypeVarTuple"
  | .newType .. => .type "typing.NewType"
  | .library _ => .type "module"
  | .routine name => .type (if isQualified name then "function" else "builtin_function_or_method")
  | .method receiver name =>
    let owner := match (classOf receiver).ownerOf? name with
      | some (.type kind) => kind
      | _ => ""
    .type (if namesOperationOf owner name then "method-wrapper" else "builtin_function_or_method")
  | .unbound kind name => .type (classOfUnbound kind name)
  | .lambda .. => .type "function"
  | .generator .. => .type "generator"
  | .object kind _ => kind
  | .unknown => .type "object"

/-- Whether a value knows which library it belongs to. -/
def hasLibrary : Meaning → Bool
  | .type _ => true
  | .made .. => true
  | .generic .. => true
  | .barred _ => true
  | .routine _ => true
  | .method receiver name =>
    !((classOf (.method receiver name)) matches .type "method-wrapper")
  | .lambda .. => true
  | .unknown => true
  | m => m.classOf.tellsLibrary

/-- Whether a value is an instance of a class of the catalogue. -/
def isA (m : Meaning) (name : String) : Bool := m.classOf.isBelow name

/-- The name of a class without its library. -/
def className : Meaning → String
  | .type name => Catalogue.shortName name
  | .made name .. => name
  | _ => ""

/-- The full name of a class. -/
def fullName : Meaning → String
  | .type name => name
  | .made name .. => name
  | _ => ""

/-- The name of a value's class. -/
def typeName (m : Meaning) : String := m.classOf.className

/-- Whether the instances of a class are sequences: they can be run through, and are neither texts
nor mappings nor sets. -/
def isSequenceClass (c : Meaning) : Bool :=
  !(["str", "bytes", "collections.abc.Mapping", "collections.abc.Set"].any c.isBelow) &&
    (["list", "tuple", "collections.abc.Iterable"].any c.isBelow)

end Meaning
end Annotation
end BoundUpdate
