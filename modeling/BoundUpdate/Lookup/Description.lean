import BoundUpdate.Value.Basic

namespace BoundUpdate
namespace Lookup

/-!
# Descriptions of elementary types

Every elementary type describes itself in words, which its values have as an
attribute.
-/

/-- The description of an elementary type. -/
def description? : String → Option String
  | "bool" => some <|
    "bool(x) -> bool\n\nReturns True when the argument x is true, False otherwise.\n" ++
    "The builtins True and False are the only two instances of the class bool.\n" ++
    "The class bool is a subclass of the class int, and cannot be subclassed."
  | "int" => some <|
    "int([x]) -> integer\nint(x, base=10) -> integer\n\n" ++
    "Convert a number or string to an integer, or return 0 if no arguments\n" ++
    "are given.  If x is a number, return x.__int__().  For floating point\n" ++
    "numbers, this truncates towards zero.\n\n" ++
    "If x is not a number or if base is given, then x must be a string,\n" ++
    "bytes, or bytearray instance representing an integer literal in the\n" ++
    "given base.  The literal can be preceded by '+' or '-' and be surrounded\n" ++
    "by whitespace.  The base defaults to 10.  Valid bases are 0 and 2-36.\n" ++
    "Base 0 means to interpret the base from the string as an integer literal.\n" ++
    ">>> int('0b100', base=0)\n4"
  | "float" => some <|
    "Convert a string or number to a floating point number, if possible."
  | "str" => some <|
    "str(object='') -> str\nstr(bytes_or_buffer[, encoding[, errors]]) -> str\n\n" ++
    "Create a new string object from the given object. If encoding or\n" ++
    "errors is specified, then the object must expose a data buffer\n" ++
    "that will be decoded using the given encoding and error handler.\n" ++
    "Otherwise, returns the result of object.__str__() (if defined)\n" ++
    "or repr(object).\nencoding defaults to sys.getdefaultencoding().\n" ++
    "errors defaults to 'strict'."
  | "bytes" => some <|
    "bytes(iterable_of_ints) -> bytes\nbytes(string, encoding[, errors]) -> bytes\n" ++
    "bytes(bytes_or_buffer) -> immutable copy of bytes_or_buffer\n" ++
    "bytes(int) -> bytes object of size given by the parameter initialized with null " ++
    "bytes\nbytes() -> empty bytes object\n\n" ++
    "Construct an immutable array of bytes from:\n" ++
    "  - an iterable yielding integers in range(256)\n" ++
    "  - a text string encoded using the specified encoding\n" ++
    "  - any object implementing the buffer API.\n  - an integer"
  | "list" => some <|
    "Built-in mutable sequence.\n\n" ++
    "If no argument is given, the constructor creates a new empty list.\n" ++
    "The argument must be an iterable if specified."
  | "tuple" => some <|
    "Built-in immutable sequence.\n\n" ++
    "If no argument is given, the constructor returns an empty tuple.\n" ++
    "If iterable is specified the tuple is initialized from iterable's items.\n\n" ++
    "If the argument is a tuple, the return value is the same object."
  | "set" => some <|
    "set() -> new empty set object\nset(iterable) -> new set object\n\n" ++
    "Build an unordered collection of unique elements."
  | "date" => some <|
    "date(year, month, day) --> date object"
  | "datetime" => some <|
    "datetime(year, month, day[, hour[, minute[, second[, microsecond[,tzinfo]]]]])\n" ++
    "\nThe year, month and day arguments are required. tzinfo may be None, or an\n" ++
    "instance of a tzinfo subclass. The remaining arguments may be ints.\n"
  | "timedelta" => some <|
    "Difference between two datetime values.\n\n" ++
    "timedelta(days=0, seconds=0, microseconds=0, milliseconds=0, minutes=0, " ++
    "hours=0, weeks=0)\n\nAll arguments are optional and default to 0.\n" ++
    "Arguments may be integers or floats, and may be positive or negative."
  | "timezone" => some <|
    "Fixed offset from UTC implementation of tzinfo."
  | "Decimal" => some <|
    "Construct a new Decimal object. 'value' can be an integer, string, tuple,\n" ++
    "or another Decimal object. If no value is given, return Decimal('0'). The\n" ++
    "context does not affect the conversion and is only passed to determine if\n" ++
    "the InvalidOperation trap is active.\n\n"
  | "builtin_function_or_method" => some "Return the number of items in a container."
  | _ => none

/-- The description that a value has as an attribute. -/
def descriptionOf? (v : Value) : Option Value :=
  match v with
  | .object .. => none
  | .enumMember _ => none
  | .mapping _ => none
  | .type _ => none
  | .record .. => none
  | .other _ => none
  | .meaning _ => none
  | v => (description? v.typeName).map .text

end Lookup
end BoundUpdate
