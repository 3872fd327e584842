import BoundUpdate.Annotation.Parameters

namespace BoundUpdate
namespace Annotation
namespace Meaning

/-!
# Members of meanings

A member is a value that something is made from, or a function of its class.
Types with parameters pass the search on to the class that they were made from;
the library of templates refuses special names that it does not find.
-/

/-- Whether a name is special: it starts and ends with two low lines. -/
def isSpecial (name : String) : Bool :=
  let cs := name.toList
  ['_', '_'].isPrefixOf cs && ['_', '_'].isPrefixOf cs.reverse

/-- The refusal of a member. -/
def withoutMember (name : String) : Evaluated Meaning :=
  .error (.raised .missingAttribute name)

/-- Functions that belong to a class and not to its instances. -/
def classFunctions : List String :=
  ["fromkeys", "from_bytes", "fromhex", "maketrans", "__class_getitem__", "__subclasshook__",
   "__init_subclass__", "__new__", "__prepare__"]

/-- The members of functions that an expression made. -/
def functionMembers : List String :=
  ["__annotations__", "__builtins__", "__closure__", "__code__", "__defaults__", "__dict__",
   "__globals__", "__kwdefaults__", "__get__"]

/-- The library of a class. -/
def libraryText (c : Meaning) : Meaning := .text (Catalogue.libraryOf c.fullName)

/-- The classes without a description. -/
def undescribed : String :=
  "ExceptionGroup collections.UserDict collections.UserString NoneType NotImplementedType " ++
  "async_generator coroutine ellipsis generator mappingproxy typing._CallableGenericAlias " ++
  "typing._CallableType typing._ConcatenateGenericAlias typing._GenericAlias " ++
  "typing._LiteralGenericAlias typing._LiteralSpecialForm typing._SpecialGenericAlias " ++
  "typing._TupleType typing._UnionGenericAlias typing._UnpackGenericAlias"

/-- The abstract collections with a description. -/
def describedCollections : String :=
  "ByteString Mapping MutableMapping MutableSequence MutableSet Sequence Set"

/-- The description of a class. -/
def descriptionOf (c : Meaning) : Meaning :=
  match c with
  | .type name =>
    let isDescribed :=
      if Catalogue.libraryOf name = "collections.abc" then
        (Catalogue.wordsOf describedCollections).contains (Catalogue.shortName name)
      else !(Catalogue.wordsOf undescribed).contains name
    if isDescribed then .unknown else .nothing
  | .made _ _ members => (members.lookup "__doc__").getD .nothing
  | _ => .unknown

/-- What describes a class. -/
def classDatum? (c : Meaning) (name : String) : Option Meaning :=
  if name = "__name__" ∨ name = "__qualname__" then some (.text c.className)
  else if name = "__class__" then some c.classOf
  else if name = "__module__" then some (libraryText c)
  else if name = "__mro__" then some (.tuple c.ancestors)
  else if name = "__bases__" then some (.tuple c.bases)
  else if name = "__base__" then some (c.bases.head?.getD .nothing)
  else if name = "__doc__" then some (descriptionOf c)
  else if name = "__dict__" then some (instanceOf "mappingproxy" [])
  else if name = "__abstractmethods__" ∧ c.classOf.isBelow "abc.ABCMeta" then some (.set [] true)
  else if ["__text_signature__", "__basicsize__", "__dictoffset__",
      "__flags__", "__itemsize__", "__weakrefoffset__"].contains name then some .unknown
  else if c.fullName = "typing.re" ∧ ["Pattern", "Match"].contains name then some (.template name)
  else if c.fullName = "typing.io" ∧ ["IO", "TextIO", "BinaryIO"].contains name then
    some (.type ("typing." ++ name))
  else if name = "__hash__" ∧ !c.allowsKeys then some .nothing
  else if name = "__parameters__" ∧ c.isBelow "typing.Generic" then some .unknown
  else if name = "__annotations__" ∧ c.tellsLibrary then some (.dict "dict" [])
  else if name = "__slots__" ∧
      ["typing", "collections.abc"].contains (Catalogue.libraryOf c.fullName) then
    some (.tuple [])
  else none

/-- A member of a class. -/
def memberOfClass (c : Meaning) (name : String) : Evaluated Meaning :=
  match classDatum? c name with
  | some m => .ok m
  | none =>
    match c.madeMember? name with
    | some m => .ok m
    | none =>
      match c.ownerOf? name with
      | some owner =>
        if classFunctions.contains name then .ok (.method c name)
        else .ok (.unbound owner.fullName name)
      | none =>
        if c.classOf.hasMember name then .ok (.method c name) else Evaluated.lacking c name

/-- The texts of members that hold a function's name. -/
def nameMembers : List String := ["__name__", "__qualname__"]

/-- What a type with parameters was made from. -/
def typeDatum? (m : Meaning) (name : String) : Option Meaning :=
  if name = "__slots__" ∧ m.isA "typing._BaseGenericAlias" then some .nothing
  else if name = "__dict__" ∧ m.isA "typing._BaseGenericAlias" then some (.dict "dict" [])
  else if name = "__iter__" ∧ m.isA "typing._NotIterable" then some .nothing
  else match m with
  | .applied _ origin given parameters =>
    if name = "__origin__" then some origin
    else if name = "__args__" then some (.tuple parameters)
    else if name = "__parameters__" then some (.tuple (distinct m.freeVariables))
    else if name = "_name" then some ((given.map Meaning.text).getD .nothing)
    else if name = "_inst" then
      some (.truth (((given.bind Template.find?).map (·.isMade)).getD true))
    else if name = "__module__" then some (.text "typing")
    else none
  | .annotated inner remarks =>
    if name = "__origin__" then some inner
    else if name = "__metadata__" then some (.tuple remarks)
    else if name = "__args__" then some (.tuple [inner])
    else if name = "__parameters__" then some (.tuple (distinct m.freeVariables))
    else if name = "_name" then some .nothing
    else if nameMembers.contains name then some (.text "Annotated")
    else none
  | .template given =>
    if name = "__origin__" then (Template.find? given).map fun t => .type t.origin
    else if name = "_name" then some (.text given)
    else if name = "_nparams" then
      (Template.find? given).map fun t =>
        .integer ((t.arity.map fun (n : Nat) => (n : Int)).getD (-1))
    else if name = "_inst" then (Template.find? given).map fun t => .truth t.isMade
    else if name = "__module__" then some (.text "typing")
    else if name = "__doc__" then (Template.find? given).map fun t =>
      if t.arity.isNone ∨ given = "Callable" then .unknown
      else .text ("A generic version of " ++ t.origin ++ ".")
    else none
  | .generic origin parameters isUnpacked =>
    if name = "__origin__" then some origin
    else if name = "__args__" then some (.tuple parameters)
    else if name = "__parameters__" then some (.tuple (distinct m.freeVariables))
    else if name = "__unpacked__" then some (.truth isUnpacked)
    else if name = "__typing_unpacked_tuple_args__" then
      some (if isUnpacked ∧ origin.fullName = "tuple" then .tuple parameters else .nothing)
    else none
  | .barred alternatives =>
    if name = "__args__" then some (.tuple alternatives)
    else if name = "__parameters__" then some (.tuple (distinct m.freeVariables))
    else if name = "__module__" then some (.text "types")
    else none
  | _ => none

/-- What describes a view of bytes. -/
def viewDatum? (contents : List Meaning) (name : String) : Option Meaning :=
  let length : Meaning := .integer contents.length
  if name = "nbytes" then some length
  else if name = "shape" then some (.tuple [length])
  else if name = "itemsize" ∨ name = "ndim" then some (.integer 1)
  else if name = "strides" then some (.tuple [.integer 1])
  else if name = "suboffsets" then some (.tuple [])
  else if name = "format" then some (.text "B")
  else if ["contiguous", "c_contiguous", "f_contiguous"].contains name then some (.truth true)
  else if name = "readonly" ∨ name = "obj" then some .unknown
  else none

/-- What other values hold. -/
def datum? (m : Meaning) (name : String) : Option Meaning :=
  match m with
  | .form given =>
    if name = "_name" ∨ nameMembers.contains name then some (.text given)
    else if name = "_getitem" ∨ name = "__doc__" then some .unknown
    else if name = "__slots__" then
      some (.tuple (["_name", "__doc__", "_getitem"].map Meaning.text))
    else if name = "__module__" then some (.text "typing")
    else none
  | .reference s =>
    if name = "__forward_arg__" then some (.text s)
    else if name = "__forward_evaluated__" ∨ name = "__forward_is_class__" then some (.truth false)
    else if name = "__forward_is_argument__" then some (.truth true)
    else if name = "__forward_value__" ∨ name = "__forward_module__" then some .nothing
    else if name = "__forward_code__" then some .unknown
    else none
  | .variable kind given variance bound constraints =>
    if name = "__name__" then some (.text given)
    else if name = "__dict__" then some (.dict "dict" [])
    else if kind = .types then none
    else if name = "__bound__" then some bound
    else if name = "__covariant__" then some (.truth (variance == '+'))
    else if name = "__contravariant__" then some (.truth (variance == '-'))
    else if kind = .type ∧ name = "__constraints__" then some (.tuple constraints)
    else if kind = .parameters ∧ name = "args" then some (instanceOf "typing.ParamSpecArgs" [m])
    else if kind = .parameters ∧ name = "kwargs" then some (instanceOf "typing.ParamSpecKwargs" [m])
    else none
  | .newType given base =>
    if nameMembers.contains name then some (.text given)
    else if name = "__supertype__" then some base
    else if name = "__module__" then some (.text "__main__")
    else if name = "__dict__" then some (.dict "dict" [])
    else none
  | .routine given =>
    if nameMembers.contains name then some (.text (Catalogue.shortName given))
    else if name = "__module__" then some (.text (Catalogue.libraryOf given))
    else if name = "__self__" ∧ !isQualified given then some (.library "builtins")
    else if isQualified given ∧ functionMembers.contains name then some .unknown
    else none
  | .lambda .. =>
    if nameMembers.contains name then some (.text "<lambda>")
    else if name = "__annotations__" ∨ name = "__dict__" then some (.dict "dict" [])
    else if name = "__module__" ∨ functionMembers.contains name then some .unknown
    else none
  | .method receiver given =>
    if name = "__name__" then some (.text given)
    else if name = "__self__" then some receiver
    else if name = "__qualname__" then some (.text (receiver.typeName ++ "." ++ given))
    else if name = "__module__" then some .nothing
    else none
  | .unbound kind given =>
    if name = "__name__" then some (.text given)
    else if name = "__qualname__" then some (.text (Catalogue.shortName kind ++ "." ++ given))
    else if name = "__objclass__" then some (.type kind)
    else none
  | .integer n =>
    if name = "real" ∨ name = "numerator" then some (.integer n)
    else if name = "imag" then some (.integer 0)
    else if name = "denominator" then some (.integer 1)
    else none
  | .truth b =>
    if name = "real" ∨ name = "numerator" then some (.integer (if b then 1 else 0))
    else if name = "imag" then some (.integer 0)
    else if name = "denominator" then some (.integer 1)
    else none
  | .real x =>
    if name = "real" then some (.real x)
    else if name = "imag" then some (.real (.zero false))
    else none
  | .complex x y =>
    if name = "real" then some (.real x) else if name = "imag" then some (.real y) else none
  | .slice a b c =>
    if name = "start" then some a else if name = "stop" then some b
    else if name = "step" then some c else none
  | .range a b c =>
    if name = "start" then some (.integer a) else if name = "stop" then some (.integer b)
    else if name = "step" then some (.integer c) else none
  | .generator .. =>
    if nameMembers.contains name then some (.text "<genexpr>")
    else if name = "gi_running" ∨ name = "gi_suspended" then some (.truth false)
    else if name = "gi_yieldfrom" then some .nothing
    else if name = "gi_code" then some (instanceOf "code" [])
    else if name = "gi_frame" then some .unknown
    else none
  | .object (.type "memoryview") contents => viewDatum? contents name
  | .object kind contents =>
    if kind.isBelow "BaseException" ∧ name = "args" then some (.tuple contents)
    else if kind.isBelow "BaseException" ∧
        ["__cause__", "__context__", "__traceback__"].contains name then some .nothing
    else if name = "__origin__" ∧ ["typing.ParamSpecArgs", "typing.ParamSpecKwargs"].contains
        kind.fullName then contents.head?
    else none
  | _ => none

/-- The value in a named place of a tuple whose class gives names to places. -/
def placeNamed? (m : Meaning) (name : String) : Option Meaning :=
  match m with
  | .object c items =>
    match c.madeMember? "_fields" with
    | some (.tuple fields) =>
      ((fields.zip items).find? fun e => e.1.text? == some name).map Prod.snd
    | _ => none
  | _ => none

/-- A member that the class of a value gives. -/
def memberByClass? (m : Meaning) (name : String) : Option Meaning :=
  let c := m.classOf
  if name = "__class__" then some c
  else if name = "__doc__" then some (descriptionOf c)
  else if name = "__hash__" ∧ !c.allowsKeys then some .nothing
  else if let some value := placeNamed? m name then some value
  else
    match c.madeMember? name with
    | some (.lambda ..) => some (.method m name)
    | some value => some value
    | none =>
      if c.hasMember name then
        some (.method (if classFunctions.contains name then c else m) name)
      else if name = "__dict__" ∧ (c matches .made ..) then some .unknown
      else if name = "__module__" ∧ m.hasLibrary then some (.text (Catalogue.libraryOf c.fullName))
      else none

/-- What a member of a meaning means. -/
def memberOf (m : Meaning) (name : String) : Evaluated Meaning :=
  let found := typeDatum? m name <|> datum? m name <|> memberByClass? m name
  let relayed := fun (origin : Meaning) (given : Option String) =>
    (if nameMembers.contains name then
      match given, origin with
      | some s, _ => .ok (.text s)
      | none, .form s => .ok (.text s)
      | none, .type _ => .ok (.text origin.className)
      | none, .made .. => .ok (.text origin.className)
      | none, _ => .ok .unknown
    else if isSpecial name then withoutMember name
    else
      match origin with
      | .type _ => memberOfClass origin name
      | .made .. => memberOfClass origin name
      | .form _ => withoutMember name
      | .unknown => .ok .unknown
      | _ => withoutMember name : Evaluated Meaning)
  match m with
  | .unknown => .ok .unknown
  | .type _ => memberOfClass m name
  | .made .. => memberOfClass m name
  | .library given =>
    let member := if given = "builtins" then named? name else Library.member? given name
    match member <|> found with
    | some value => .ok value
    | none => Evaluated.lacking m name
  | .generic origin _ _ =>
    match typeDatum? m name with
    | some value => .ok value
    | none =>
      if name = "__class__" then .ok m.classOf
      else if ["__mro_entries__", "__reduce__", "__reduce_ex__", "__copy__",
          "__deepcopy__"].contains name then .ok (.method m name)
      else memberOfClass origin name
  | .applied _ origin given _ =>
    match found with
    | some value => .ok value
    | none => relayed origin given
  | .annotated inner _ =>
    match found with
    | some value => .ok value
    | none =>
      match inner with
      | .type _ => relayed inner none
      | .made .. => relayed inner none
      | .form _ => relayed inner none
      | .generic origin _ _ =>
        if isSpecial name then withoutMember name else memberOfClass origin name
      | .applied _ origin given _ => relayed origin given
      | .template given => relayed (((Template.find? given).map fun t =>
          Meaning.type t.origin).getD .unknown) (some given)
      | _ => if isSpecial name then withoutMember name else Evaluated.lacking inner name
  | .template given =>
    match found with
    | some value => .ok value
    | none =>
      relayed (((Template.find? given).map fun t => Meaning.type t.origin).getD .unknown)
        (some given)
  | .form _ =>
    match found with
    | some value => .ok value
    | none => withoutMember name
  | m =>
    match found with
    | some value => .ok value
    | none => Evaluated.lacking m name

end Meaning
end Annotation
end BoundUpdate
