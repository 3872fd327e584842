import BoundUpdate.Annotation.Class
import BoundUpdate.Number.Arithmetic
import BoundUpdate.Number.Shortest
import BoundUpdate.Text.Quoted

namespace BoundUpdate
namespace Annotation
namespace Meaning

/-!
# Meanings as text

A shown meaning is the expression that gives it where there is one: values as
they are spelled out, types by their names and parameters.
-/

/-- A part of a complex number: whole numbers are shown without fraction. -/
def complexPart (x : Number.Binary64) : String :=
  let s := x.text.toList
  match s.reverse with
  | '0' :: '.' :: rest => String.ofList rest.reverse
  | _ => String.ofList s

/-- A complex number. -/
def complexText (x y : Number.Binary64) : String :=
  if x.isZero && !x.isNegative then complexPart y ++ "j"
  else
    let sign := if y.isNegative then "" else "+"
    "(" ++ complexPart x ++ sign ++ complexPart y ++ "j)"

/-- Parts with commas between them. -/
def commas (parts : List String) : String := String.intercalate ", " parts

/-- Parts of a tuple; a single one is followed by a comma. -/
def tupleText : List String → String
  | [part] => "(" ++ part ++ ",)"
  | parts => "(" ++ commas parts ++ ")"

/-- A thing that has no expression. -/
def thing (description : String) : String := "<" ++ description ++ ">"

/-- Whether a parameter stands for the parameters of a function as a whole. -/
def standsForParameters : Meaning → Bool
  | .ellipsis => true
  | .tuple _ => true
  | .list _ => true
  | .variable .parameters .. => true
  | .applied .concatenated .. => true
  | _ => false

/-- How the parameters of a type are written, given the texts of the parameters. -/
def bracketed (name : String) (parts : List String) : String :=
  name ++ "[" ++ (if parts.isEmpty then "()" else commas parts) ++ "]"

/-- The parameters of a function type and its result. -/
def functionText (name : String) (parameters : List Meaning) (parts : List String) : String :=
  match parameters with
  | [first, _] =>
    if standsForParameters first then bracketed name parts
    else name ++ "[[" ++ commas parts.dropLast ++ "], " ++ (parts.getLast?.getD "") ++ "]"
  | _ => name ++ "[[" ++ commas parts.dropLast ++ "], " ++ (parts.getLast?.getD "") ++ "]"

/-- Alternatives; nothing beside a single type makes the type optional. -/
def unionText (alternatives : List Meaning) (parts : List String) : String :=
  match alternatives, parts with
  | [a, b], [s, t] =>
    if a.isNothingType then bracketed "typing.Optional" [t]
    else if b.isNothingType then bracketed "typing.Optional" [s]
    else bracketed "typing.Union" parts
  | _, _ => bracketed "typing.Union" parts

/-- The text of a class itself. -/
def classText : Meaning → String
  | .type "typing.Any" => "typing.Any"
  | c => thing ("class '" ++ c.fullName ++ "'")

/-- The mark in front of a type variable. -/
def varianceText (c : Char) : String := String.ofList [c]

/-- The name of a type variable. -/
def variableName : Meaning → String
  | .variable _ name _ _ _ => name
  | _ => ""

/-- A meaning with a given text as a part of a type: classes and functions stand by their names. -/
def asPart (m : Meaning) (text : String) : String :=
  match m with
  | .type name => name
  | .made name _ _ => name
  | .ellipsis => "..."
  | .lambda .. => "<lambda>"
  | .routine name => if isQualified name then Catalogue.shortName name else text
  | _ => text

/-- A meaning with a given text as a parameter of a class: functions stand by their full names.  The
class of types with parameters has parameters of its own and counts as such a type. -/
def asParameter (m : Meaning) (text : String) : String :=
  match m with
  | .type "types.GenericAlias" => text
  | .routine name => name
  | m => asPart m text

/-- The text of an alternative between bars, given how it is shown. -/
def alternativeText (m : Meaning) (shown : String) : String :=
  if m.isNothingType then "None" else asParameter m shown

mutual

/-- A meaning as messages show it. -/
def shown : Meaning → String
  | .nothing => "None"
  | .unimplemented => "NotImplemented"
  | .ellipsis => "Ellipsis"
  | .truth b => if b then "True" else "False"
  | .integer n => Number.intText n
  | .real x => x.text
  | .complex x y => complexText x y
  | .text s => Text.quote s
  | .bytes bs isMutable =>
    if isMutable then "bytearray(" ++ Text.quoteBytes bs ++ ")" else Text.quoteBytes bs
  | .tuple items => tupleText (shownAll items)
  | .list items => "[" ++ commas (shownAll items) ++ "]"
  | .set items isFrozen =>
    let body := "\x7b" ++ commas (shownAll items) ++ "\x7d"
    if isFrozen then "frozenset(" ++ (if items.isEmpty then "" else body) ++ ")"
    else if items.isEmpty then "set()" else body
  | .dict kind entries =>
    let body := "\x7b" ++ commas (shownEntries entries) ++ "\x7d"
    if kind = "dict" then body
    else if kind = "collections.OrderedDict" then
      if entries.isEmpty then "OrderedDict()"
      else "OrderedDict([" ++ commas (shownPairs entries) ++ "])"
    else if kind = "collections.defaultdict" then "defaultdict(None, " ++ body ++ ")"
    else Catalogue.shortName kind ++ "(" ++ (if entries.isEmpty then "" else body) ++ ")"
  | .slice a b c => "slice(" ++ commas [shown a, shown b, shown c] ++ ")"
  | .range a b c =>
    "range(" ++ commas ([Number.intText a, Number.intText b] ++
      (if c = 1 then [] else [Number.intText c])) ++ ")"
  | .type name => classText (.type name)
  | .made name _ _ => thing ("class '" ++ name ++ "'")
  | .form name => "typing." ++ name
  | .template name => "typing." ++ name
  | .generic origin parameters isUnpacked =>
    (if isUnpacked then "*" else "") ++
      (if origin.fullName = "collections.abc.Callable" then
        functionText origin.fullName parameters (typeTexts parameters)
      else bracketed (asPart origin (shown origin)) (parameterTexts parameters))
  | .applied style origin name parameters =>
    let parts := typeTexts parameters
    match style, name with
    | .union, _ => unionText parameters parts
    | .unpacked, _ => "*" ++ commas (shownAll parameters)
    | .function, some name => functionText ("typing." ++ name) parameters parts
    | _, some name => bracketed ("typing." ++ name) parts
    | .literal, none => bracketed (asPart origin (shown origin)) parts
    | _, none => bracketed (asPart origin (shown origin)) parts
  | .barred alternatives => String.intercalate " | " (alternativeTexts alternatives)
  | .annotated inner remarks =>
    "typing.Annotated[" ++ asPart inner (shown inner) ++ ", " ++ commas (shownAll remarks) ++ "]"
  | .reference s => "ForwardRef(" ++ Text.quote s ++ ")"
  | .variable kind name variance _ _ =>
    if kind = .types then name else varianceText variance ++ name
  | .newType name _ => "__main__." ++ name
  | .library name => thing ("module '" ++ name ++ "'")
  | .routine name =>
    thing ((if isQualified name then "function " else "built-in function ") ++
      Catalogue.shortName name)
  | .method receiver name =>
    match receiver.classOf.ownerOf? name with
    | some owner =>
      if owner.tellsLibrary then
        thing ("bound method " ++ owner.className ++ "." ++ name ++ " of " ++ shown receiver)
      else thing ("built-in method " ++ name ++ " of " ++ receiver.typeName ++ " object")
    | none => thing ("built-in method " ++ name ++ " of " ++ receiver.typeName ++ " object")
  | .unbound kind name =>
    let noun := match classOfUnbound kind name with
      | "wrapper_descriptor" => "slot wrapper"
      | "getset_descriptor" => "attribute"
      | "member_descriptor" => "member"
      | _ => "method"
    thing (noun ++ " '" ++ name ++ "' of '" ++ kind ++ "' objects")
  | .lambda .. => thing "function <lambda>"
  | .generator .. => thing "generator object <genexpr>"
  | .object kind contents =>
    if kind.isBelow "BaseException" then kind.className ++ "(" ++ commas (shownAll contents) ++ ")"
    else if let some (.tuple fields) := kind.madeMember? "_fields" then
      kind.className ++ "(" ++ commas ((fields.zip (shownAll contents)).map fun (f, s) =>
        (f.text?.getD "") ++ "=" ++ s) ++ ")"
    else if kind.fullName = "collections.deque" ∨ kind.fullName = "dict_keys" ∨
        kind.fullName = "dict_values" ∨ kind.fullName = "dict_items" then
      kind.className ++ "([" ++ commas (shownAll contents) ++ "])"
    else if kind.fullName = "typing.ParamSpecArgs" then
      String.join (contents.map Meaning.variableName) ++ ".args"
    else if kind.fullName = "typing.ParamSpecKwargs" then
      String.join (contents.map Meaning.variableName) ++ ".kwargs"
    else if ["classmethod", "staticmethod"].contains kind.fullName then
      thing (kind.fullName ++ "(" ++ commas (shownAll contents) ++ ")")
    else thing (kind.fullName ++ " object")
  | .unknown => thing "object"
termination_by structural m => m

/-- The texts of meanings. -/
def shownAll : List Meaning → List String
  | [] => []
  | m :: rest => shown m :: shownAll rest
termination_by structural xs => xs

/-- The texts of entries. -/
def shownEntries : List (Meaning × Meaning) → List String
  | [] => []
  | (k, v) :: rest => (shown k ++ ": " ++ shown v) :: shownEntries rest
termination_by structural xs => xs

/-- The texts of entries as pairs. -/
def shownPairs : List (Meaning × Meaning) → List String
  | [] => []
  | (k, v) :: rest => tupleText [shown k, shown v] :: shownPairs rest
termination_by structural xs => xs

/-- The texts of parts of a type. -/
def typeTexts : List Meaning → List String
  | [] => []
  | m :: rest => asPart m (shown m) :: typeTexts rest
termination_by structural xs => xs

/-- The texts of parameters of a class. -/
def parameterTexts : List Meaning → List String
  | [] => []
  | m :: rest => asParameter m (shown m) :: parameterTexts rest
termination_by structural xs => xs

/-- The texts of alternatives. -/
def alternativeTexts : List Meaning → List String
  | [] => []
  | m :: rest => (alternativeText m (shown m)) :: alternativeTexts rest
termination_by structural xs => xs

end

/-- The plain text of a meaning: texts as they are, failures by what they were made from. -/
def plain : Meaning → String
  | .text s => s
  | .object kind contents =>
    if kind.isBelow "BaseException" then
      match contents with
      | [] => ""
      | [.text s] => if kind.isBelow "KeyError" then Text.quote s else s
      | [m] => m.shown
      | contents => tupleText (shownAll contents)
    else shown (.object kind contents)
  | m => m.shown

end Meaning
end Annotation
end BoundUpdate
