import BoundUpdate.Annotation.Catalogue.Row

namespace BoundUpdate
namespace Annotation
namespace Catalogue

/-!
# Classes of failures

Every failure is an instance of one of these classes.
-/

/-- Classes of failures. -/
def failures : List Row := [
  { name := "ArithmeticError"
    bases := ["Exception"] },
  { name := "AssertionError"
    bases := ["Exception"] },
  { name := "AttributeError"
    bases := ["Exception"]
    members := "name obj" },
  { name := "BaseException"
    bases := ["object"]
    members := "__cause__ __context__ __setstate__ __suppress_context__ __traceback__ add_note " ++
      "args with_traceback" },
  { name := "BaseExceptionGroup"
    bases := ["BaseException"]
    members := "__class_getitem__ derive exceptions message split subgroup" },
  { name := "BlockingIOError"
    bases := ["OSError"] },
  { name := "BrokenPipeError"
    bases := ["ConnectionError"] },
  { name := "BufferError"
    bases := ["Exception"] },
  { name := "BytesWarning"
    bases := ["Warning"] },
  { name := "ChildProcessError"
    bases := ["OSError"] },
  { name := "ConnectionAbortedError"
    bases := ["ConnectionError"] },
  { name := "ConnectionError"
    bases := ["OSError"] },
  { name := "ConnectionRefusedError"
    bases := ["ConnectionError"] },
  { name := "ConnectionResetError"
    bases := ["ConnectionError"] },
  { name := "DeprecationWarning"
    bases := ["Warning"] },
  { name := "EOFError"
    bases := ["Exception"] },
  { name := "EncodingWarning"
    bases := ["Warning"] },
  { name := "Exception"
    bases := ["BaseException"] },
  { name := "ExceptionGroup"
    bases := ["BaseExceptionGroup", "Exception"] },
  { name := "FileExistsError"
    bases := ["OSError"] },
  { name := "FileNotFoundError"
    bases := ["OSError"] },
  { name := "FloatingPointError"
    bases := ["ArithmeticError"] },
  { name := "FutureWarning"
    bases := ["Warning"] },
  { name := "GeneratorExit"
    bases := ["BaseException"] },
  { name := "ImportError"
    bases := ["Exception"]
    members := "msg name path" },
  { name := "ImportWarning"
    bases := ["Warning"] },
  { name := "IndentationError"
    bases := ["SyntaxError"] },
  { name := "IndexError"
    bases := ["LookupError"] },
  { name := "InterruptedError"
    bases := ["OSError"] },
  { name := "IsADirectoryError"
    bases := ["OSError"] },
  { name := "KeyError"
    bases := ["LookupError"] },
  { name := "KeyboardInterrupt"
    bases := ["BaseException"] },
  { name := "LookupError"
    bases := ["Exception"] },
  { name := "MemoryError"
    bases := ["Exception"] },
  { name := "ModuleNotFoundError"
    bases := ["ImportError"] },
  { name := "NameError"
    bases := ["Exception"]
    members := "name" },
  { name := "NotADirectoryError"
    bases := ["OSError"] },
  { name := "NotImplementedError"
    bases := ["RuntimeError"] },
  { name := "OSError"
    bases := ["Exception"]
    members := "characters_written errno filename filename2 strerror" },
  { name := "OverflowError"
    bases := ["ArithmeticError"] },
  { name := "PendingDeprecationWarning"
    bases := ["Warning"] },
  { name := "PermissionError"
    bases := ["OSError"] },
  { name := "ProcessLookupError"
    bases := ["OSError"] },
  { name := "RecursionError"
    bases := ["RuntimeError"] },
  { name := "ReferenceError"
    bases := ["Exception"] },
  { name := "ResourceWarning"
    bases := ["Warning"] },
  { name := "RuntimeError"
    bases := ["Exception"] },
  { name := "RuntimeWarning"
    bases := ["Warning"] },
  { name := "StopAsyncIteration"
    bases := ["Exception"] },
  { name := "StopIteration"
    bases := ["Exception"]
    members := "value" },
  { name := "SyntaxError"
    bases := ["Exception"]
    members := "end_lineno end_offset filename lineno msg offset print_file_and_line text" },
  { name := "SyntaxWarning"
    bases := ["Warning"] },
  { name := "SystemError"
    bases := ["Exception"] },
  { name := "SystemExit"
    bases := ["BaseException"]
    members := "code" },
  { name := "TabError"
    bases := ["IndentationError"] },
  { name := "TimeoutError"
    bases := ["OSError"] },
  { name := "TypeError"
    bases := ["Exception"] },
  { name := "UnboundLocalError"
    bases := ["NameError"] },
  { name := "UnicodeDecodeError"
    bases := ["UnicodeError"]
    members := "encoding end object reason start" },
  { name := "UnicodeEncodeError"
    bases := ["UnicodeError"]
    members := "encoding end object reason start" },
  { name := "UnicodeError"
    bases := ["ValueError"] },
  { name := "UnicodeTranslateError"
    bases := ["UnicodeError"]
    members := "encoding end object reason start" },
  { name := "UnicodeWarning"
    bases := ["Warning"] },
  { name := "UserWarning"
    bases := ["Warning"] },
  { name := "ValueError"
    bases := ["Exception"] },
  { name := "Warning"
    bases := ["Exception"] },
  { name := "ZeroDivisionError"
    bases := ["ArithmeticError"] }]

end Catalogue
end Annotation
end BoundUpdate
