import BoundUpdate.Annotation.Equality
import BoundUpdate.Annotation.Fault
import BoundUpdate.Annotation.Names
import BoundUpdate.Annotation.Placement

namespace BoundUpdate
namespace Annotation
namespace Meaning

/-!
# Types with parameters

Words, templates and classes are applied to parameters in brackets.  Where a
type is wanted, nothing stands for its own type and a text refers to the type
that its expression means; plain words and tuples are no types.  Alternatives
are kept once each.
-/

/-! ## Places for types -/

/-- The failure of a text that is no expression. -/
def noExpression (s : String) : Failure :=
  .raised .malformedExpression
    ("Forward reference must be an expression -- got " ++ Text.quote s)

/-- The expression of a text that refers to a type.  A text that starts with a star stands for the
only item that it unpacks. -/
def referred? (s : String) : Option Expression :=
  if s.toList.head? = some '*' then Expression.read ('(' :: s.toList ++ [',', ')', '[', '0', ']'])
  else Expression.read s.toList

/-- The reference that a text is. -/
def referenceTo (s : String) : Evaluated Meaning :=
  if s = "" then Evaluated.outside
  else if s.toList.contains '\x00' then Evaluated.invalid "null character"
  else
    match referred? s with
    | some _ => .ok (.reference s)
    | none => .error (noExpression s)

/-- A meaning in the place of a type, not yet checked. -/
def converted : Meaning → Evaluated Meaning
  | .nothing => .ok nothingType
  | .text s => referenceTo s
  | m => .ok m

/-- The words that are types by themselves. -/
def typeWords : List String := ["LiteralString", "NoReturn", "Never", "Self", "TypeAlias"]

/-- The words for variables of classes and for names that do not change. -/
def variableWords : List String := ["ClassVar", "Final"]

/-- The classes that are no types without a class derived from them. -/
def bareClasses : List String := ["typing.Generic", "typing.Protocol"]

/-- Whether a type was made from a word or class that gives no type. -/
def isMadeFromNoType (allowsWords : Bool) : Meaning → Bool
  | .annotated (.form name) _ => !allowsWords && variableWords.contains name
  | .applied _ (.type name) _ _ => bareClasses.contains name
  | .applied _ (.form name) _ _ => !allowsWords && variableWords.contains name
  | _ => false

/-- A meaning in a place where a type is wanted. -/
def typeOf (message : String) (m : Meaning) (allowsWords : Bool := false) : Evaluated Meaning := do
  let m ← m.converted
  if isMadeFromNoType allowsWords m then
    Evaluated.refused (m.shown ++ " is not valid as type argument")
  else
    match m with
    | .form name =>
      if typeWords.contains name || (allowsWords && variableWords.contains name) then return m
      else Evaluated.refused ("Plain " ++ m.shown ++ " is not valid as type argument")
    | .type name =>
      if bareClasses.contains name then
        Evaluated.refused ("Plain " ++ m.shown ++ " is not valid as type argument")
      else return m
    | .tuple _ =>
      Evaluated.refused (message ++ " Got " ++ String.ofList (m.shown.toList.take 100) ++ ".")
    | m => return m

/-! ## Alternatives -/

/-- The alternatives that a type is. -/
def alternatives : Meaning → List Meaning
  | .applied .union _ _ parameters => parameters
  | .barred parameters => parameters
  | m => [m]

/-- A union of types. -/
def unionOf (parameters : List Meaning) : Evaluated Meaning := do
  let types ← parameters.mapM (typeOf "Union[arg, ...]: each arg must be a type.")
  let types := types.flatMap alternatives
  if !areKeys types then Evaluated.misfit "unhashable type"
  else
    match distinct types with
    | [m] => return m
    | types =>
      let isOptional := types.length == 2 && types.any isNothingType
      return .applied .union (.form "Union") (if isOptional then some "Optional" else none) types

/-- Whether a value can stand beside a bar by itself. -/
def standsAtBar : Meaning → Bool
  | .nothing => true
  | .type _ => true
  | .made .. => true
  | .generic .. => true
  | .barred _ => true
  | _ => false

/-- Whether a value makes a union of itself and any value at a bar. -/
def unitesAtBar : Meaning → Bool
  | .form _ => true
  | .template _ => true
  | .applied .. => true
  | .annotated .. => true
  | .reference _ => true
  | .variable kind .. => kind != .types
  | .newType .. => true
  | _ => false

/-- Whether two alternatives between bars are the same one. -/
def sameAlternative (a b : Meaning) : Bool :=
  match a, b with
  | .generic .., .generic .. => same a b
  | a, b => isOne a b

/-- Alternatives between bars, each once. -/
def barredOf (parameters : List Meaning) : Meaning :=
  let flat := (parameters.flatMap fun m =>
    match m with
    | .barred inner => inner
    | m => [m]).map fun m => if m matches .nothing then nothingType else m
  let kept := (flat.foldl (fun seen m =>
    if seen.any (sameAlternative m) then seen else m :: seen) []).reverse
  match kept with
  | [m] => m
  | kept => .barred kept

/-- Two values with a bar between them, where one of them is a type. -/
def atBar (a b : Meaning) : Evaluated Meaning :=
  let isNothing := fun (m : Meaning) => m matches .nothing
  if standsAtBar a && standsAtBar b && !(isNothing a && isNothing b) then .ok (barredOf [a, b])
  else if unitesAtBar a || unitesAtBar b then unionOf [a, b]
  else Evaluated.misfit "unsupported operands"

/-- Values with bars between them. -/
def atBars : List Meaning → Evaluated Meaning
  | [] => Evaluated.misfit "no alternatives"
  | m :: rest => rest.foldlM atBar m

/-! ## Words, templates and classes -/

/-- A type with remarks; remarks on a type with remarks come last.  The type has to know its
library. -/
def annotatedOf (inner : Meaning) (remarks : List Meaning) : Evaluated Meaning :=
  match inner with
  | .annotated m others => .ok (.annotated m (others ++ remarks))
  | m => if m.hasLibrary then .ok (.annotated m remarks) else Evaluated.lacking m "__module__"

/-- The values of literal types among values in their places. -/
def literalValues (parameters : List Meaning) : List Meaning :=
  parameters.flatMap fun m =>
    match m with
    | .applied .literal _ _ values => values
    | m => [m]

/-- Values that are spelled out, each once. -/
def literalOf (parameters : List Meaning) : Meaning :=
  let values := literalValues parameters
  let kept := if areKeys values then
      (values.foldl (fun seen m => if covers true seen m then seen else m :: seen) []).reverse
    else values
  .applied .literal (.form "Literal") none kept

/-- A word applied to parameters. -/
def applyForm (name : String) (index : Meaning) : Evaluated Meaning :=
  let word : Meaning := .form name
  if typeWords.contains name then Evaluated.refused (word.shown ++ " is not subscriptable")
  else if name = "Optional" then do
    let m ← typeOf (word.shown ++ " requires a single type.") index
    unionOf [m, nothingType]
  else if name = "Union" then
    match index with
    | .tuple [] => Evaluated.refused "Cannot take a Union of no types."
    | index => unionOf index.asTuple
  else if name = "Literal" then .ok (literalOf index.asTuple)
  else if name = "Concatenate" then
    match index with
    | .tuple [] => Evaluated.refused "Cannot take a Concatenate of no types."
    | index => do
      let parameters := index.asTuple
      let last := parameters.getLast?.getD .nothing
      let fits := match last with
        | .ellipsis => true
        | .variable .parameters .. => true
        | _ => false
      if fits then
        let types ← parameters.dropLast.mapM
          (typeOf "Concatenate[arg, ...]: each arg must be a type.")
        return .applied .concatenated word none (types ++ [last])
      else
        Evaluated.refused
          "The last parameter to Concatenate should be a ParamSpec variable or ellipsis."
  else if name = "Unpack" then do
    return unpacked (← typeOf (word.shown ++ " accepts only single type.") index)
  else if name = "Required" ∨ name = "NotRequired" then do
    return .applied .plain word none [← typeOf (name ++ " accepts only a single type.") index]
  else do
    return .applied .plain word none [← typeOf (word.shown ++ " accepts only single type.") index]
where
  /-- A type in the place of several parameters. -/
  unpacked (m : Meaning) : Meaning := .applied .unpacked (.form "Unpack") none [m]

/-- The failure of parameters that are too many or too few. -/
def wrongCount (name : String) (actual expected : Nat) : Evaluated Meaning :=
  let word := if expected < actual then "many" else "few"
  Evaluated.refused ("Too " ++ word ++ " arguments for " ++ name ++ "; actual " ++
    Number.natText actual ++ ", expected " ++ Number.natText expected)

/-- The template of functions applied to parameters. -/
def applyFunctionTemplate (index : Meaning) : Evaluated Meaning :=
  match index with
  | .tuple [first, result] => do
    let result ← typeOf "Callable[args, result]: result must be a type." result
    let parameters ← match first with
      | .list items => items.mapM converted
      | .ellipsis => pure [.ellipsis]
      | .tuple items => items.mapM converted
      | m => do pure [← m.converted]
    return .applied .function (.type "collections.abc.Callable") (some "Callable")
      (parameters ++ [result])
  | _ => Evaluated.refused "Callable must be used as Callable[[arg, ...], result]."

/-- A template applied to parameters. -/
def applyTemplate (name : String) (index : Meaning) : Evaluated Meaning :=
  let applied := fun (origin : String) (parameters : List Meaning) =>
    Meaning.applied .plain (.type origin) (some name) parameters
  let parameters := index.asTuple
  if name = "Callable" then applyFunctionTemplate index
  else
    match Template.find? name with
    | none => Evaluated.misfit "no template"
    | some t =>
      match t.arity with
      | some arity => do
        let types ← parameters.mapM (typeOf "Parameters to generic types must be types.")
        if arity = 0 then Evaluated.refused ("typing." ++ name ++ " is not a generic class")
        else if types.length = arity then return applied t.origin types
        else wrongCount ("typing." ++ name) types.length arity
      | none =>
        if 2 ≤ parameters.length ∧ (parameters.getLast?.any fun m => m matches .ellipsis) then do
          let types ← parameters.dropLast.mapM (typeOf "Tuple[t, ...]: t must be a type.")
          return applied t.origin (types ++ [.ellipsis])
        else do
          let types ← parameters.mapM (typeOf "Tuple[t0, t1, ...]: each t must be a type.")
          return applied t.origin types

/-- Classes that take parameters as templates do, by how many. -/
def templateClasses : List (String × Nat) :=
  [("typing.IO", 1), ("typing.SupportsAbs", 1), ("typing.SupportsRound", 1), ("typing.TextIO", 0),
   ("typing.BinaryIO", 0), ("typing.SupportsBytes", 0), ("typing.SupportsComplex", 0),
   ("typing.SupportsFloat", 0), ("typing.SupportsIndex", 0), ("typing.SupportsInt", 0)]

/-- Whether a value is a type variable; one of several types has to be unpacked. -/
def isVariable : Meaning → Bool
  | .variable kind .. => kind != .types
  | .applied .unpacked _ _ [.variable .types ..] => true
  | _ => false

/-- A class without a class derived from it applied to type variables. -/
def applyBareClass (name : String) (parameters : List Meaning) : Evaluated Meaning := do
  let parameters ← parameters.mapM converted
  let short := Catalogue.shortName name
  if parameters.isEmpty then
    Evaluated.refused ("Parameter list to " ++ short ++ "[...] cannot be empty")
  else if !(parameters.all isVariable) then
    Evaluated.refused ("Parameters to " ++ short ++
      "[...] must all be type variables or parameter specification variables.")
  else if (distinct parameters).length ≠ parameters.length then
    Evaluated.refused ("Parameters to " ++ short ++ "[...] must all be unique")
  else return .applied .plain (.type name) none parameters

/-- A type with remarks, from parameters. -/
def applyAnnotated (parameters : List Meaning) : Evaluated Meaning :=
  match parameters with
  | m :: remark :: remarks =>
    match m with
    | .applied .unpacked _ _ [.variable .types ..] =>
      Evaluated.refused "Annotated[...] should not be used with an unpacked TypeVarTuple"
    | m => do
      annotatedOf (← typeOf "Annotated[t, ...]: t must be a type." m true) (remark :: remarks)
  | _ => Evaluated.refused ("Annotated[...] should be used with at least two arguments " ++
      "(a type and an annotation).")

/-- The abstract class of functions applied to parameters. -/
def applyFunctionClass (index : Meaning) : Evaluated Meaning :=
  let applied := fun (parameters : List Meaning) =>
    Meaning.generic (.type "collections.abc.Callable") parameters false
  match index with
  | .tuple [.list items, result] => .ok (applied (items ++ [result]))
  | .tuple [.tuple items, result] => .ok (applied (items ++ [result]))
  | .tuple [first, result] =>
    if standsForParameters first then .ok (applied [first, result])
    else Evaluated.refused
      ("Expected a list of types, an ellipsis, ParamSpec, or Concatenate. Got " ++ first.plain)
  | _ => Evaluated.refused "Callable must be used as Callable[[arg, ...], result]."

/-- A class applied to parameters. -/
def applyClass (c index : Meaning) : Evaluated Meaning :=
  let name := c.fullName
  if name = "collections.abc.Callable" then applyFunctionClass index
  else if name = "typing.Annotated" then applyAnnotated index.asTuple
  else if bareClasses.contains name then applyBareClass name index.asTuple
  else
    match templateClasses.lookup name with
    | some arity => do
      let parameters ← index.asTuple.mapM converted
      if arity = 0 then Evaluated.refused (c.shown ++ " is not a generic class")
      else if parameters.length = arity then return .applied .plain c none parameters
      else wrongCount c.shown parameters.length arity
    | none =>
      if name = "type" ∨ c.hasMember "__class_getitem__" then
        .ok (.generic c index.asTuple false)
      else Evaluated.misfit ("type '" ++ name ++ "' is not subscriptable")

/-! ## Variables -/

mutual

/-- The variables in a type, in the order of their places. -/
def freeVariables : Meaning → List Meaning
  | .variable kind name variance bound constraints =>
    [.variable kind name variance bound constraints]
  | .tuple items => freeVariablesOf items
  | .generic _ parameters _ => freeVariablesOf parameters
  | .applied .literal _ _ _ => []
  | .applied _ _ _ parameters => freeVariablesOf parameters
  | .barred parameters => freeVariablesOf parameters
  | .annotated inner _ => freeVariables inner
  | _ => []

/-- The variables in types. -/
def freeVariablesOf : List Meaning → List Meaning
  | [] => []
  | m :: rest => freeVariables m ++ freeVariablesOf rest

end

/-- A type with other parameters in the places of its parameters. -/
def rebuilt (m : Meaning) (parameters : List Meaning) : Evaluated Meaning :=
  match m, parameters with
  | .applied .union _ _ _, parameters => unionOf parameters
  | .applied .concatenated origin name _, parameters =>
    match parameters.getLast? with
    | some (.list items) => .ok (.tuple (parameters.dropLast ++ items))
    | some (.tuple items) => .ok (.tuple (parameters.dropLast ++ items))
    | some (.applied .concatenated _ _ others) =>
      .ok (.applied .concatenated origin name (parameters.dropLast ++ others))
    | _ => .ok (.applied .concatenated origin name parameters)
  | .applied style origin name _, parameters => .ok (.applied style origin name parameters)
  | .generic origin _ isUnpacked, parameters => .ok (.generic origin parameters isUnpacked)
  | .barred _, parameters => atBars parameters
  | .annotated _ remarks, [inner] => annotatedOf inner remarks
  | m, _ => .ok m

/-- The parameters that an unpacked tuple type stands for. -/
def unpackedItems? : Meaning → Option (List Meaning)
  | .generic origin parameters true =>
    if origin.fullName = "tuple" then some parameters else none
  | .applied .unpacked _ _ [.applied _ origin _ parameters] =>
    if origin.fullName = "tuple" then some parameters else none
  | _ => none

/-- Whether parameters end with the mark of any number of them. -/
def isEndless (parameters : List Meaning) : Bool :=
  parameters.getLast?.any fun m => m matches .ellipsis

/-- Parameters with those of unpacked tuple types in their places. -/
def flattened (parameters : List Meaning) : List Meaning :=
  parameters.flatMap fun m =>
    match unpackedItems? m with
    | some items => if isEndless items then [m] else items
    | none => [m]

/-- The text of a failure of too few parameters. -/
def tooFew (m : Meaning) : String := "Too few arguments for " ++ m.shown

/-- Parameters of a type with those for a variable of parameters in one place; such a variable may
be given its parameters without brackets when it is the only one. -/
def gatheredParameters (m : Meaning) (wanted : List Meaning) (place : Nat)
    (parameters : List Meaning) : Evaluated (List Meaning) :=
  match parameters[place]? with
  | none => Evaluated.refused (tooFew m)
  | some first =>
    if wanted.length = 1 ∧ !(standsForParameters first) then .ok [.tuple parameters]
    else
      match first with
      | .list items => .ok (parameters.set place (.tuple items))
      | _ => .ok parameters

/-- Parameters of a type with those for a variable of types in one place: all that the variables in
front of it and behind it leave.  An unpacked tuple of any length fills up places beside it. -/
def gatheredTypes (m : Meaning) (wanted : List Meaning) (place : Nat)
    (parameters : List Meaning) : Evaluated (List Meaning) := do
  let isEndlessTuple := fun (p : Meaning) => (unpackedItems? p).any fun items =>
    items.length == 2 && isEndless items
  if (wanted.drop (place + 1)).any fun v => v matches .variable .types .. then
    Evaluated.refused ("More than one TypeVarTuple parameter in " ++ m.shown)
  else if (parameters.filter isEndlessTuple).length > 1 then
    Evaluated.refused "More than one unpacked arbitrary-length tuple argument"
  else
    let right := wanted.length - place - 1
    let count := parameters.length
    match parameters.findIdx? isEndlessTuple with
    | some i =>
      let front := min place i
      let back := min right (count - i - 1)
      let filling := (((parameters[i]?.bind unpackedItems?).getD []).head?).getD .nothing
      return parameters.take front ++ List.replicate (place - front) filling ++
        [.tuple ((parameters.drop front).take (count - back - front))] ++
        List.replicate (wanted.length - back - place - 1) filling ++
        parameters.drop (count - back)
    | none =>
      if count < place + right then
        Evaluated.refused (tooFew m ++ "; actual " ++ Number.natText count ++
          ", expected at least " ++ Number.natText (wanted.length - 1))
      else
        return parameters.take place ++
          [.tuple ((parameters.drop place).take (count - right - place))] ++
          parameters.drop (count - right)

/-- Parameters of a type with those for one of its variables gathered. -/
def gathered (m : Meaning) (wanted : List Meaning) (v : Meaning × Nat)
    (parameters : List Meaning) : Evaluated (List Meaning) :=
  match v.1 with
  | .variable .parameters .. => gatheredParameters m wanted v.2 parameters
  | .variable .types .. => gatheredTypes m wanted v.2 parameters
  | _ => .ok parameters

/-- The variables of a type with the parameters for them. -/
def given (m : Meaning) (parameters : List Meaning) : Evaluated (List (Meaning × Meaning)) := do
  let isTemplate := m.isA "typing._GenericAlias"
  let fail := fun (message : String) =>
    (if isTemplate then Evaluated.refused message else Evaluated.misfit message :
      Evaluated (List (Meaning × Meaning)))
  let wanted := distinct m.freeVariables
  let isBare := match m with
    | .applied _ (.type name) _ _ => bareClasses.contains name
    | _ => false
  if isBare then fail ("Cannot subscript already-subscripted " ++ m.shown)
  else if wanted.isEmpty then fail (m.shown ++ " is not a generic class")
  else
    let parameters ← if isTemplate then parameters.mapM converted else pure parameters
    let parameters ← wanted.zipIdx.foldlM
      (fun parameters v => gathered m wanted v parameters) (flattened parameters)
    if parameters.length = wanted.length then return wanted.zip parameters
    else if isTemplate then
      let _ ← wrongCount m.shown parameters.length wanted.length
      return []
    else fail "wrong number of parameters"

/-- What stands in the place of a variable that is given a parameter. -/
def inPlaceOf (v parameter : Meaning) : Evaluated Meaning := do
  match v with
  | .variable .parameters .. =>
    match parameter with
    | .list items => return .tuple (← items.mapM (typeOf "Expected a type."))
    | .tuple items => return .tuple (← items.mapM (typeOf "Expected a type."))
    | m =>
      if standsForParameters m then return m
      else
        Evaluated.refused
          ("Expected a list of types, an ellipsis, ParamSpec, or Concatenate. Got " ++ m.plain)
  | .variable .types .. => Evaluated.refused "Substitution of bare TypeVarTuple is not supported"
  | _ =>
    let m ← typeOf "Parameters to generic types must be types." parameter
    let isUnpacked := match m with
      | .applied .unpacked _ _ _ => true
      | .generic _ _ isUnpacked => isUnpacked
      | _ => false
    if isUnpacked then Evaluated.refused (m.shown ++ " is not valid as type argument")
    else return m

/-- The parameters for variables, those for a variable of types each by itself. -/
def valuesOf (known : List (Meaning × Meaning)) (wanted : List Meaning) : List Meaning :=
  wanted.flatMap fun v =>
    match v, valueAt? known v with
    | .variable .types .., some (.tuple items) => items
    | _, some m => [m]
    | _, none => []

mutual

/-- A type with parameters applied to further ones, which take the places of its variables. -/
def reapplied : Meaning → List Meaning → Evaluated Meaning
  | .generic origin parameters isUnpacked, further => do
    let known ← given (.generic origin parameters isUnpacked) further
    let isFunction := origin.fullName == "collections.abc.Callable"
    rebuilt (.generic origin [] isUnpacked) (← substituted isFunction known parameters)
  | .applied style origin name parameters, further => do
    let known ← given (.applied style origin name parameters) further
    rebuilt (.applied style origin name []) (← substituted (style == .function) known parameters)
  | .barred parameters, further => do
    let known ← given (.barred parameters) further
    rebuilt (.barred []) (← substituted false known parameters)
  | .annotated inner remarks, further => do
    let known ← given (.annotated inner remarks) further
    if inner matches .variable .. then
      annotatedOf (← inPlaceOf inner ((valueAt? known inner).getD .unknown)) remarks
    else annotatedOf (← reapplied inner (valuesOf known (distinct (freeVariables inner)))) remarks
  | m, _ => .ok m
termination_by structural m => m

/-- Parameters with others in the places of their variables.  Among the parameters of a function a
list of types stands for its items. -/
def substituted (isFunction : Bool) (known : List (Meaning × Meaning)) :
    List Meaning → Evaluated (List Meaning)
  | [] => .ok []
  | m :: rest => do
    let news ← match m with
      | .variable .. => do pure [← inPlaceOf m ((valueAt? known m).getD .unknown)]
      | .applied .unpacked _ _ [.variable .types ..] => pure (valuesOf known (freeVariables m))
      | .tuple _ => pure [m]
      | m =>
        if (freeVariables m).isEmpty then pure [m]
        else do pure [← reapplied m (valuesOf known (distinct (freeVariables m)))]
    let news := news.flatMap fun m =>
      match isFunction, m with
      | true, .tuple items => items
      | _, m => [m]
    return news ++ (← substituted isFunction known rest)
termination_by structural ms => ms

end

/-- A meaning applied to parameters in brackets; `none` when it is nothing that takes any. -/
def applied? (m index : Meaning) : Option (Evaluated Meaning) :=
  match m with
  | .form name => some (applyForm name index)
  | .template name => some (applyTemplate name index)
  | .type _ => some (applyClass m index)
  | .made .. => some (applyClass m index)
  | .generic .. => some (reapplied m index.asTuple)
  | .applied .unpacked _ _ [.variable .types ..] => some (.ok index)
  | .applied .. => some (reapplied m index.asTuple)
  | .barred _ => some (reapplied m index.asTuple)
  | .annotated .. => some (reapplied m index.asTuple)
  | _ => none

end Meaning
end Annotation
end BoundUpdate
