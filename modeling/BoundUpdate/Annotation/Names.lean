import BoundUpdate.Annotation.Class

namespace BoundUpdate
namespace Annotation

/-!
# Names in annotations

The names that an annotation may use without more: elementary classes, kinds of
failures, functions, and common templates.  Further names are members of
libraries.
-/

/-- A template: the class that it stands for and what it takes. -/
structure Template where
  origin : String
  /-- The number of parameters, unless any number is taken. -/
  arity : Option Nat
  /-- Whether a call of the template makes an instance of the class. -/
  isMade : Bool := true

namespace Template

/-- Templates that stand for abstract collections of their names, by their number of parameters. -/
def abstractNames : List (Nat × List String) :=
  [(0, ["ByteString", "Hashable", "Sized"]),
   (1, ["AsyncIterable", "AsyncIterator", "Awaitable", "Collection", "Container", "Iterable",
    "Iterator", "KeysView", "MappingView", "MutableSequence", "MutableSet", "Reversible",
    "Sequence", "ValuesView"]),
   (2, ["AsyncGenerator", "Callable", "ItemsView", "Mapping", "MutableMapping"]),
   (3, ["Coroutine", "Generator"])]

/-- Templates that stand for other classes. -/
def concreteNames : List (String × Template) :=
  [("AbstractSet", ⟨"collections.abc.Set", some 1, true⟩),
   ("AsyncContextManager", ⟨"contextlib.AbstractAsyncContextManager", some 1, true⟩),
   ("ContextManager", ⟨"contextlib.AbstractContextManager", some 1, true⟩),
   ("ChainMap", ⟨"collections.ChainMap", some 2, true⟩),
   ("Counter", ⟨"collections.Counter", some 1, true⟩),
   ("DefaultDict", ⟨"collections.defaultdict", some 2, true⟩),
   ("Deque", ⟨"collections.deque", some 1, true⟩),
   ("OrderedDict", ⟨"collections.OrderedDict", some 2, true⟩),
   ("Match", ⟨"re.Match", some 1, true⟩),
   ("Pattern", ⟨"re.Pattern", some 1, true⟩),
   ("Dict", ⟨"dict", some 2, false⟩),
   ("FrozenSet", ⟨"frozenset", some 1, false⟩),
   ("List", ⟨"list", some 1, false⟩),
   ("Set", ⟨"set", some 1, false⟩),
   ("Tuple", ⟨"tuple", none, false⟩),
   ("Type", ⟨"type", some 1, false⟩)]

/-- The template of a name. -/
def find? (name : String) : Option Template :=
  match abstractNames.find? fun row => row.2.contains name with
  | some (arity, _) => some ⟨"collections.abc." ++ name, some arity, true⟩
  | none => concreteNames.lookup name

end Template

/-- The words of the language that are no classes. -/
def formNames : List String :=
  ["ClassVar", "Concatenate", "Final", "Literal", "LiteralString", "Never", "NoReturn",
   "NotRequired", "Optional", "Required", "Self", "TypeAlias", "TypeGuard", "Union", "Unpack"]

/-- The type variables that the library of templates itself uses. -/
def ownVariables : List (String × Meaning) :=
  let named := fun (name : String) (variance : Char) =>
    (name, Meaning.variable .type name variance .nothing [])
  [named "T" '~', named "KT" '~', named "VT" '~', named "T_co" '+', named "V_co" '+',
   named "VT_co" '+', named "T_contra" '-', named "CT_co" '+',
   ("AnyStr", .variable .type "AnyStr" '~' .nothing [.type "bytes", .type "str"])]

/-- What a library offers besides the classes of the catalogue that it owns. -/
structure Library where
  /-- Classes of other owners. -/
  classes : List (String × String) := []
  routines : String := ""
  libraries : List (String × String) := []
  /-- Values that are not told apart. -/
  others : String := ""

namespace Library

/-- The functions of operators. -/
def operatorNames : String :=
  "abs add and_ call concat contains countOf delitem eq floordiv ge getitem gt iadd iand " ++
  "iconcat ifloordiv ilshift imatmul imod imul index indexOf inv invert ior ipow irshift is_ " ++
  "is_not isub itruediv ixor le length_hint lshift lt matmul mod mul ne neg not_ or_ pos pow " ++
  "rshift setitem sub truediv truth xor"

/-- The libraries. -/
def all : List (String × Library) :=
  [("typing",
    { classes := [("Text", "str"), ("ABCMeta", "abc.ABCMeta"),
        ("GenericAlias", "types.GenericAlias"),
        ("MethodDescriptorType", "method_descriptor"), ("MethodWrapperType", "method-wrapper"),
        ("WrapperDescriptorType", "wrapper_descriptor"),
        ("defaultdict", "collections.defaultdict"), ("_alias", "typing._SpecialGenericAlias")]
      routines := "NamedTuple TypedDict abstractmethod assert_never assert_type cast " ++
        "clear_overloads dataclass_transform final get_args get_origin get_overloads " ++
        "get_type_hints is_typeddict no_type_check no_type_check_decorator overload " ++
        "reveal_type runtime_checkable"
      libraries := [("collections", "collections"), ("contextlib", "contextlib"),
        ("functools", "functools"), ("operator", "operator"), ("stdlib_re", "re"),
        ("sys", "sys"), ("types", "types"), ("warnings", "warnings")]
      others := "EXCLUDED_ATTRIBUTES" }),
   ("collections",
    { routines := "namedtuple", libraries := [("abc", "collections.abc"), ("_sys", "sys")] }),
   ("collections.abc", {}),
   ("types",
    { classes := [("AsyncGeneratorType", "async_generator"),
        ("BuiltinFunctionType", "builtin_function_or_method"),
        ("BuiltinMethodType", "builtin_function_or_method"), ("CellType", "cell"),
        ("ClassMethodDescriptorType", "classmethod_descriptor"), ("CodeType", "code"),
        ("CoroutineType", "coroutine"), ("EllipsisType", "ellipsis"), ("FunctionType", "function"),
        ("GeneratorType", "generator"), ("GetSetDescriptorType", "getset_descriptor"),
        ("LambdaType", "function"), ("MappingProxyType", "mappingproxy"),
        ("MemberDescriptorType", "member_descriptor"),
        ("MethodDescriptorType", "method_descriptor"),
        ("MethodType", "method"), ("MethodWrapperType", "method-wrapper"), ("ModuleType", "module"),
        ("NoneType", "NoneType"), ("NotImplementedType", "NotImplementedType"),
        ("WrapperDescriptorType", "wrapper_descriptor")]
      routines := "coroutine new_class prepare_class resolve_bases"
      others := "DynamicClassAttribute FrameType TracebackType" }),
   ("functools",
    { classes := [("GenericAlias", "types.GenericAlias")]
      routines := "cache cmp_to_key get_cache_token lru_cache namedtuple recursive_repr reduce " ++
        "singledispatch total_ordering update_wrapper wraps"
      others := "RLock WRAPPER_ASSIGNMENTS WRAPPER_UPDATES cached_property partialmethod " ++
        "singledispatchmethod" }),
   ("operator", { routines := operatorNames }),
   ("contextlib",
    { classes := [("GenericAlias", "types.GenericAlias"), ("MethodType", "method"),
        ("deque", "collections.deque")]
      routines := "asynccontextmanager contextmanager wraps"
      libraries := [("_collections_abc", "collections.abc"), ("sys", "sys")]
      others := "AsyncContextDecorator AsyncExitStack ContextDecorator ExitStack abc aclosing " ++
        "chdir closing nullcontext os redirect_stderr redirect_stdout suppress" }),
   ("re",
    { routines :=
        "compile escape findall finditer fullmatch match purge search split sub subn template"
      libraries := [("functools", "functools")]
      others := "A ASCII DEBUG DOTALL I IGNORECASE L LOCALE M MULTILINE NOFLAG RegexFlag S " ++
        "Scanner T TEMPLATE U UNICODE VERBOSE X copyreg enum error" }),
   ("warnings",
    { routines := "filterwarnings formatwarning resetwarnings showwarning simplefilter warn " ++
        "warn_explicit"
      libraries := [("sys", "sys")]
      others := "WarningMessage catch_warnings defaultaction filters onceregistry" }),
   ("sys",
    { routines := "addaudithook audit breakpointhook call_tracing displayhook exc_info " ++
        "excepthook exception exit getallocatedblocks getdefaultencoding getfilesystemencoding " ++
        "getrecursionlimit getrefcount getsizeof getswitchinterval gettrace intern " ++
        "is_finalizing setrecursionlimit settrace unraisablehook"
      others := "abiflags api_version argv base_exec_prefix base_prefix builtin_module_names " ++
        "byteorder dont_write_bytecode exec_prefix executable flags float_info float_repr_style " ++
        "hash_info hexversion implementation int_info maxsize maxunicode meta_path modules " ++
        "orig_argv path path_hooks path_importer_cache platform platlibdir prefix " ++
        "pycache_prefix stderr stdin stdlib_module_names stdout thread_info version " ++
        "version_info warnoptions" })]

/-- The members that every library has. -/
def commonOthers : String :=
  "__doc__ __loader__ __spec__ __file__ __builtins__ __cached__ __dict__ __all__"

/-- A name of a library with the library in front; functions that are open to all stand alone. -/
def qualified (library name : String) : String := library ++ "." ++ name

/-- The values of a library that are told apart. -/
def value? (library name : String) : Option Meaning :=
  if library = "typing" then
    if name = "TYPE_CHECKING" then some (.truth false)
    else if (Template.find? name).isSome then some (.template name)
    else if formNames.contains name then some (.form name)
    else ownVariables.lookup name
  else if library = "sys" then
    if name = "maxsize" then some (.integer 9223372036854775807)
    else if name = "maxunicode" then some (.integer 1114111)
    else none
  else none

/-- What a member of a library means. -/
def member? (library name : String) : Option Meaning :=
  let owned := qualified library name
  match value? library name with
  | some m => some m
  | none =>
    if (Catalogue.find? owned).isSome then some (.type owned)
    else if name = "__name__" then some (.text library)
    else
      match all.lookup library with
      | none => some .unknown
      | some l =>
        match l.classes.lookup name, l.libraries.lookup name with
        | some c, _ => some (.type c)
        | none, some other => some (.library other)
        | none, none =>
          if (Catalogue.wordsOf l.routines).contains name then some (.routine owned)
          else if (Catalogue.wordsOf (l.others ++ " " ++ commonOthers)).contains name then
            some .unknown
          else if library = "operator" ∧ name.startsWith "__" then
            let bare := String.ofList ((name.toList.drop 2).take (name.length - 4))
            if (Catalogue.wordsOf l.routines).contains bare then
              some (.routine (qualified library bare))
            else if (Catalogue.wordsOf l.routines).contains (bare ++ "_") then
              some (.routine (qualified library (bare ++ "_")))
            else none
          else none

end Library

/-- The classes that need no library. -/
def openClasses : List String :=
  ["ArithmeticError", "AssertionError", "AttributeError", "BaseException", "BaseExceptionGroup",
   "BlockingIOError", "BrokenPipeError", "BufferError", "BytesWarning", "ChildProcessError",
   "ConnectionAbortedError", "ConnectionError", "ConnectionRefusedError", "ConnectionResetError",
   "DeprecationWarning", "EOFError", "EncodingWarning", "Exception", "ExceptionGroup",
   "FileExistsError", "FileNotFoundError", "FloatingPointError", "FutureWarning", "GeneratorExit",
   "ImportError", "ImportWarning", "IndentationError", "IndexError", "InterruptedError",
   "IsADirectoryError", "KeyError", "KeyboardInterrupt", "LookupError", "MemoryError",
   "ModuleNotFoundError", "NameError", "NotADirectoryError", "NotImplementedError", "OSError",
   "OverflowError", "PendingDeprecationWarning", "PermissionError", "ProcessLookupError",
   "RecursionError", "ReferenceError", "ResourceWarning", "RuntimeError", "RuntimeWarning",
   "StopAsyncIteration", "StopIteration", "SyntaxError", "SyntaxWarning", "SystemError",
   "SystemExit", "TabError", "TimeoutError", "TypeError", "UnboundLocalError", "UnicodeDecodeError",
   "UnicodeEncodeError", "UnicodeError", "UnicodeTranslateError", "UnicodeWarning", "UserWarning",
   "ValueError", "Warning", "ZeroDivisionError", "bool", "bytearray", "bytes", "classmethod",
   "complex", "dict", "enumerate", "filter", "float", "frozenset", "int", "list", "map",
   "memoryview", "object", "property", "range", "reversed", "set", "slice", "staticmethod", "str",
   "super", "tuple", "type", "zip"]

/-- The functions that need no library. -/
def openRoutines : List String :=
  ["__build_class__", "__import__", "abs", "aiter", "all", "anext", "any", "ascii", "bin",
   "breakpoint", "callable", "chr", "compile", "delattr", "dir", "divmod", "eval", "exec", "format",
   "getattr", "globals", "hasattr", "hash", "hex", "id", "input", "isinstance", "issubclass",
   "iter", "len", "locals", "max", "min", "next", "oct", "open", "ord", "pow", "print", "repr",
   "round", "setattr", "sorted", "sum", "vars"]

/-- The templates that need no library. -/
def openTemplates : List String :=
  ["Any", "List", "Tuple", "Dict", "Set", "FrozenSet", "Sequence", "Collection", "Iterable",
   "Iterator", "Mapping", "Optional", "Union", "Generator", "Callable", "Deque", "Annotated",
   "Type"]

/-- Other names that need no library. -/
def openValues : List (String × Meaning) :=
  [("typing", .library "typing"), ("abc", .library "collections.abc"),
   ("deque", .type "collections.deque"), ("OrderedDict", .type "collections.OrderedDict"),
   ("EnvironmentError", .type "OSError"), ("IOError", .type "OSError"),
   ("Ellipsis", .ellipsis), ("NotImplemented", .unimplemented), ("__debug__", .truth true),
   ("__name__", .text "builtins"), ("__package__", .text ""), ("__doc__", .unknown),
   ("__spec__", .unknown), ("__loader__", .unknown), ("__builtins__", .library "builtins"),
   ("exit", .routine "exit"), ("quit", .routine "exit"), ("help", .routine "help")]

/-- What a name means where no other meaning has been given to it. -/
def named? (name : String) : Option Meaning :=
  if openTemplates.contains name then Library.member? "typing" name
  else if openClasses.contains name then some (.type name)
  else if openRoutines.contains name then some (.routine name)
  else openValues.lookup name

end Annotation
end BoundUpdate
