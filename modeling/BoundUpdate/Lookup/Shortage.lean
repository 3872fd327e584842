import BoundUpdate.Value.Language

namespace BoundUpdate

/-!
# Operands

Routines and the operations that are built into types refuse calls with too few
operands, each in its own words.
-/

namespace Routine

/-!
## Operands of routines

A routine takes as many operands as it has parameters, the object it is called
on included.  A call with fewer operands names the parameters that are left
out, one with more tells both numbers.
-/

/-- The failure of leaving out required parameters. -/
def missingText (title : String) (names : List String) : String :=
  let quoted := names.map fun name => "'" ++ name ++ "'"
  let listed := match quoted.reverse with
    | [] => ""
    | [one] => one
    | [two, one] => one ++ " and " ++ two
    | last :: front => String.intercalate ", " front.reverse ++ ", and " ++ last
  title ++ "() missing " ++ Number.natText names.length ++ " required positional argument" ++
    (if names.length = 1 then "" else "s") ++ ": " ++ listed

/-- The failure of giving too many operands. -/
def surplusText (title : String) (expected given : Nat) : String :=
  title ++ "() takes " ++ Number.natText expected ++ " positional argument" ++
    (if expected = 1 then "" else "s") ++ " but " ++ Number.natText given ++
    (if given = 1 then " was given" else " were given")

/-- The names of all parameters. -/
def allParameters {α : Type} (r : Routine α) : List String :=
  if r.receives then "self" :: r.parameters else r.parameters

/-- Whether a routine takes a number of operands. -/
def checkOperands {α : Type} (r : Routine α) (given : Nat) : Except Failure Unit :=
  let names := r.allParameters
  if given < names.length then
    .error (.elementary .wrongType (missingText r.title (names.drop given)))
  else if names.length < given then
    .error (.elementary .wrongType (surplusText r.title names.length given))
  else .ok ()

@[simp]
theorem checkOperands_length {α : Type} (r : Routine α) :
    r.checkOperands r.allParameters.length = .ok () := by
  simp [checkOperands]

end Routine

namespace Lookup

/-!
## Operations that need operands

An operation that is built into a type and called without the operands it needs
refuses the call.  Operations count their operands in several ways, and the
wording tells which one it is; most operations of one name count alike in all
types that have them.
-/

/-- How the refusal of a call without operands is worded. -/
inductive Shortage where
  /-- The operation takes one operand, and is named together with its type. -/
  | one
  /-- At least so many operands were expected. -/
  | least (count : Nat)
  /-- So many operands were expected. -/
  | expected (count : Nat)
  /-- The operation takes one operand and further ones. -/
  | several
  /-- The operation takes a number of operands, by place or by name. -/
  | takes (count : Nat)
  /-- The operation lacks its first operand, which has a name. -/
  | lacks (parameter : String)
  /-- As `lacks`, in an operation that does not tell its own name. -/
  | namelessLacks (parameter : String)
  /-- A special name that stands for an operator or an assignment; `padded` when the text starts
  with a blank. -/
  | operator (padded : Bool) (count : Nat)
  /-- A special name that takes at least one operand. -/
  | operatorLeast
  /-- A routine of a type lacks its parameters. -/
  | routine (title : String) (parameters : List String)
  /-- The maker of values of a type lacks the type. -/
  | making (owner : String)
  /-- Another fixed text. -/
  | fixed (text : String)

namespace Shortage

/-- A number of arguments. -/
def arguments (count : Nat) : String :=
  Number.natText count ++ (if count = 1 then " argument" else " arguments")

/-- The text of a refusal, given the name of the type and the name of the operation. -/
def text (owner name : String) : Shortage → String
  | .one => owner ++ "." ++ name ++ "() takes exactly one argument (0 given)"
  | .least count => name ++ " expected at least " ++ arguments count ++ ", got 0"
  | .expected count => name ++ " expected " ++ arguments count ++ ", got 0"
  | .several => name ++ "() takes at least 1 argument (0 given)"
  | .takes count => name ++ "() takes exactly " ++ arguments count ++ " (0 given)"
  | .lacks parameter => name ++ "() missing required argument '" ++ parameter ++ "' (pos 1)"
  | .namelessLacks parameter => "function missing required argument '" ++ parameter ++ "' (pos 1)"
  | .operator padded count =>
    (if padded then " expected " else "expected ") ++ arguments count ++ ", got 0"
  | .operatorLeast => " expected at least 1 argument, got 0"
  | .routine title parameters => Routine.missingText title parameters
  | .making owner => owner ++ ".__new__(): not enough arguments"
  | .fixed text => text

/-- Refusals with the names of the operations, between blanks, that they are of. -/
abbrev Table := List (Shortage × String)

/-- The refusal of an operation in a table. -/
def find? (name : String) (table : Table) : Option Shortage :=
  let isOf := fun (entry : Shortage × String) =>
    let names := Annotation.Catalogue.wordsOf entry.2
    names.contains name
  (List.find? isOf table).map Prod.fst

/-- The special names that count alike in all types. -/
def ofSpecialNames : Table :=
  [(.operator false 1, "__add__ __and__ __delattr__ __delitem__ __divmod__ __eq__ __floordiv__ " ++
      "__ge__ __getattribute__ __gt__ __iadd__ __iand__ __ior__ __isub__ __ixor__ __le__ " ++
      "__lshift__ __lt__ __mod__ __mul__ __ne__ __or__ __radd__ __rand__ __rdivmod__ " ++
      "__rfloordiv__ __rlshift__ __rmod__ __rmul__ __ror__ __rrshift__ __rshift__ __rsub__ " ++
      "__rtruediv__ __rxor__ __sub__ __truediv__ __xor__"),
   (.operator true 2, "__setattr__ __setitem__"),
   (.operatorLeast, "__pow__ __rpow__ __get__"),
   (.one, "__format__ __reduce_ex__ __class_getitem__ __getformat__ __instancecheck__ " ++
      "__subclasscheck__ __deepcopy__")]

/-- The special names of rows of items that repeat. -/
def ofRows : Table :=
  [(.operator true 1, "__mul__ __rmul__ __imul__"), (.operator false 1, "__contains__")]

/-- The operations of texts and byte texts. -/
def ofTexts : Table :=
  [(.one, "format_map join partition removeprefix removesuffix rpartition zfill"),
   (.least 1, "center ljust rjust"), (.least 2, "replace"),
   (.several, "count endswith find index rfind rindex startswith"),
   (.operator false 1, "__getitem__")]

/-- The operations of decimals that need another decimal. -/
def ofDecimals : Table :=
  [(.namelessLacks "other", "compare compare_signal compare_total compare_total_mag copy_sign " ++
      "fma logical_and logical_or logical_xor max max_mag min min_mag next_toward " ++
      "remainder_near rotate same_quantum scaleb shift"),
   (.namelessLacks "exp", "quantize"), (.one, "from_float"),
   (.fixed "function takes at least 1 argument (0 given)", "__format__"),
   (.making "decimal.Decimal", "__new__")]

/-- The operations of days that need operands. -/
def ofDays : Table :=
  [(.lacks "year", "fromisocalendar"), (.one, "fromisoformat fromtimestamp"),
   (.takes 1, "fromordinal __format__"), (.lacks "format", "strftime"),
   (.making "datetime.date", "__new__")]

/-- The operations of moments that need operands, as far as they differ from those of days. -/
def ofMoments : Table :=
  [(.lacks "timestamp", "fromtimestamp"), (.lacks "date", "combine"), (.takes 2, "strptime"),
   (.takes 1, "utcfromtimestamp __reduce_ex__"),
   (.making "datetime.datetime", "__new__")]

/-- The routines of an enumeration that need operands. -/
def ofEnumerations : Table :=
  [(.routine "Enum._generate_next_value_" ["start", "count", "last_values"],
      "_generate_next_value_"),
   (.routine "Enum._missing_" ["value"], "_missing_"),
   (.routine "Enum.__new__" ["value"], "__new__"),
   (.routine "Enum.__format__" ["format_spec"], "__format__"),
   (.routine "Enum.__reduce_ex__" ["proto"], "__reduce_ex__")]

/-- The routines of a mapping that is not a dictionary. -/
def ofMappings : Table :=
  [(.routine "Mapping.get" ["key"], "get"), (.routine "Mapping.__eq__" ["other"], "__eq__"),
   (.routine "Mapping.__contains__" ["key"], "__contains__"),
   (.routine "FrozenMap.__getitem__" ["k"], "__getitem__"),
   (.routine "FrozenMap.__init__" ["d"], "__init__"),
   (.routine "Collection.__subclasshook__" ["C"], "__subclasshook__"),
   (.fixed "GenericAlias expected 2 arguments, got 1", "__class_getitem__"),
   (.making "object", "__new__")]

/-- The operations of the elementary type of a name, in front of the special names of all types. -/
def ofKind (kind : String) : Table :=
  match kind with
  | "str" => (.one, "translate") :: (.least 1, "maketrans") :: ofTexts ++ ofRows
  | "bytes" =>
    (.fixed "translate() takes at least 1 positional argument (0 given)", "translate") ::
      (.expected 2, "maketrans") :: (.one, "fromhex") :: ofTexts ++ ofRows
  | "list" =>
    (.one, "append count extend remove __getitem__") :: (.least 1, "index") ::
      (.expected 2, "insert") :: ofRows
  | "tuple" =>
    (.one, "count") :: (.least 1, "index") :: (.operator false 1, "__getitem__") :: ofRows
  | "dict" =>
    [(.least 1, "fromkeys get pop setdefault"), (.one, "__contains__ __getitem__")]
  | "set" =>
    [(.one, "add discard isdisjoint issubset issuperset remove symmetric_difference " ++
      "symmetric_difference_update __contains__")]
  | "int" => [(.lacks "bytes", "from_bytes")]
  | "bool" => [(.lacks "bytes", "from_bytes")]
  | "float" => [(.one, "fromhex")]
  | "Decimal" => ofDecimals
  | "date" => ofDays
  | "datetime" => ofMoments ++ ofDays
  | "timedelta" => [(.making "datetime.timedelta", "__new__")]
  | "timezone" =>
    [(.one, "dst fromutc tzname utcoffset"), (.making "datetime.timezone", "__new__")]
  | "FrozenMap" => ofMappings
  | _ => []

/-- The types that are made of an operand, in the wording of refusing to make one of nothing. -/
def makers : List String :=
  ["int", "bool", "float", "str", "list", "tuple", "dict", "set", "bytes", "function", "method",
   "NoneType"]

/-- The refusal of an operation of a value whose elementary type is `kind`. -/
def of? (kind name : String) : Option Shortage :=
  let making := if name = "__new__" then
      some (Shortage.making (if makers.contains kind then kind else "object"))
    else none
  find? name (ofKind kind) <|> find? name ofSpecialNames <|> making

/-- The failure of calling an operation of a type without operands. -/
def failure (s : Shortage) (owner name : String) : Failure :=
  .elementary .wrongType (s.text owner name)

end Shortage

end Lookup
end BoundUpdate
