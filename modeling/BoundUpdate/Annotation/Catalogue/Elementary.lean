import BoundUpdate.Annotation.Catalogue.Row

namespace BoundUpdate
namespace Annotation
namespace Catalogue

/-!
# Elementary classes, iterators and functions among them

The classes of values that are spelled out or made by elementary functions.
-/

/-- Elementary classes, iterators and functions among them. -/
def elementary : List Row := [
  { name := "NoneType"
    bases := ["object"]
    members := "__bool__" },
  { name := "NotImplementedType"
    bases := ["object"]
    members := "__bool__" },
  { name := "async_generator"
    bases := ["object"]
    counts := "AsyncGenerator AsyncIterable AsyncIterator"
    members := "__aiter__ __anext__ __class_getitem__ __del__ __name__ __qualname__ aclose " ++
      "ag_await ag_code ag_frame ag_running asend athrow" },
  { name := "bool"
    bases := ["int"]
    members := "__and__ __or__ __rand__ __ror__ __rxor__ __xor__" },
  { name := "builtin_function_or_method"
    bases := ["object"]
    counts := "Callable"
    members := "__call__ __name__ __qualname__ __self__" },
  { name := "bytearray"
    bases := ["object"]
    counts := "ByteString Collection Container Iterable MutableSequence Reversible Sequence Sized"
    isHashable := false
    members := "__add__ __alloc__ __contains__ __delitem__ __getitem__ __iadd__ __imul__ " ++
      "__iter__ __len__ __mod__ __mul__ __rmod__ __rmul__ __setitem__ append capitalize center " ++
      "clear copy count decode endswith expandtabs extend find fromhex hex index insert isalnum " ++
      "isalpha isascii isdigit islower isspace istitle isupper join ljust lower lstrip " ++
      "maketrans partition pop remove removeprefix removesuffix replace reverse rfind rindex " ++
      "rjust rpartition rsplit rstrip split splitlines startswith strip swapcase title " ++
      "translate upper zfill" },
  { name := "bytearray_iterator"
    bases := ["object"]
    counts := "Iterable Iterator"
    members := "__iter__ __length_hint__ __next__ __setstate__" },
  { name := "bytes"
    bases := ["object"]
    counts := "ByteString Collection Container Iterable Reversible Sequence Sized"
    members := "__add__ __bytes__ __contains__ __getitem__ __getnewargs__ __iter__ __len__ " ++
      "__mod__ __mul__ __rmod__ __rmul__ capitalize center count decode endswith " ++
      "expandtabs find fromhex hex index isalnum isalpha isascii isdigit islower isspace " ++
      "istitle isupper join ljust lower lstrip maketrans partition removeprefix " ++
      "removesuffix replace rfind rindex rjust rpartition rsplit rstrip split splitlines " ++
      "startswith strip swapcase title translate upper zfill" },
  { name := "bytes_iterator"
    bases := ["object"]
    counts := "Iterable Iterator"
    members := "__iter__ __length_hint__ __next__ __setstate__" },
  { name := "callable_iterator"
    bases := ["object"]
    counts := "Iterable Iterator"
    members := "__iter__ __next__" },
  { name := "cell"
    bases := ["object"]
    isHashable := false
    members := "cell_contents" },
  { name := "classmethod"
    bases := ["object"]
    members := "__func__ __get__ __isabstractmethod__ __wrapped__" },
  { name := "classmethod_descriptor"
    bases := ["object"]
    counts := "Callable"
    members := "__call__ __get__ __name__ __objclass__ __qualname__" },
  { name := "code"
    bases := ["object"]
    members := "_co_code_adaptive _varname_from_oparg co_argcount co_cellvars co_code co_consts " ++
      "co_exceptiontable co_filename co_firstlineno co_flags co_freevars " ++
      "co_kwonlyargcount co_lines co_linetable co_lnotab co_name co_names co_nlocals " ++
      "co_positions co_posonlyargcount co_qualname co_stacksize co_varnames replace" },
  { name := "complex"
    bases := ["object"]
    members := "__abs__ __add__ __bool__ __complex__ __getnewargs__ __mul__ __neg__ __pos__ " ++
      "__pow__ __radd__ __rmul__ __rpow__ __rsub__ __rtruediv__ __sub__ __truediv__ " ++
      "conjugate imag real" },
  { name := "coroutine"
    bases := ["object"]
    counts := "Awaitable Coroutine"
    members := "__await__ __del__ __name__ __qualname__ close cr_await cr_code cr_frame " ++
      "cr_origin cr_running cr_suspended send throw" },
  { name := "dict"
    bases := ["object"]
    counts := "Collection Container Iterable Mapping MutableMapping Reversible Sized"
    isHashable := false
    members := "__class_getitem__ __contains__ __delitem__ __getitem__ __ior__ __iter__ __len__ " ++
      "__or__ __reversed__ __ror__ __setitem__ clear copy fromkeys get items keys pop " ++
      "popitem setdefault update values" },
  { name := "dict_itemiterator"
    bases := ["object"]
    counts := "Iterable Iterator"
    members := "__iter__ __length_hint__ __next__" },
  { name := "dict_items"
    bases := ["object"]
    counts := "Collection Container ItemsView Iterable MappingView Reversible Set Sized"
    isHashable := false
    members := "__and__ __contains__ __iter__ __len__ __or__ __rand__ __reversed__ __ror__ " ++
      "__rsub__ __rxor__ __sub__ __xor__ isdisjoint mapping" },
  { name := "dict_keyiterator"
    bases := ["object"]
    counts := "Iterable Iterator"
    members := "__iter__ __length_hint__ __next__" },
  { name := "dict_keys"
    bases := ["object"]
    counts := "Collection Container Iterable KeysView MappingView Reversible Set Sized"
    isHashable := false
    members := "__and__ __contains__ __iter__ __len__ __or__ __rand__ __reversed__ __ror__ " ++
      "__rsub__ __rxor__ __sub__ __xor__ isdisjoint mapping" },
  { name := "dict_reverseitemiterator"
    bases := ["object"]
    counts := "Iterable Iterator"
    members := "__iter__ __length_hint__ __next__" },
  { name := "dict_reversekeyiterator"
    bases := ["object"]
    counts := "Iterable Iterator"
    members := "__iter__ __length_hint__ __next__" },
  { name := "dict_reversevalueiterator"
    bases := ["object"]
    counts := "Iterable Iterator"
    members := "__iter__ __length_hint__ __next__" },
  { name := "dict_valueiterator"
    bases := ["object"]
    counts := "Iterable Iterator"
    members := "__iter__ __length_hint__ __next__" },
  { name := "dict_values"
    bases := ["object"]
    counts := "Collection Container Iterable MappingView Reversible Sized ValuesView"
    members := "__iter__ __len__ __reversed__ mapping" },
  { name := "ellipsis"
    bases := ["object"] },
  { name := "enumerate"
    bases := ["object"]
    counts := "Iterable Iterator"
    members := "__class_getitem__ __iter__ __next__" },
  { name := "filter"
    bases := ["object"]
    counts := "Iterable Iterator"
    members := "__iter__ __next__" },
  { name := "float"
    bases := ["object"]
    members := "__abs__ __add__ __bool__ __ceil__ __divmod__ __float__ __floor__ __floordiv__ " ++
      "__getformat__ __getnewargs__ __int__ __mod__ __mul__ __neg__ __pos__ __pow__ " ++
      "__radd__ __rdivmod__ __rfloordiv__ __rmod__ __rmul__ __round__ __rpow__ __rsub__ " ++
      "__rtruediv__ __sub__ __truediv__ __trunc__ as_integer_ratio conjugate fromhex hex " ++
      "imag is_integer real" },
  { name := "frozenset"
    bases := ["object"]
    counts := "Collection Container Iterable Set Sized"
    members := "__and__ __class_getitem__ __contains__ __iter__ __len__ __or__ __rand__ __ror__ " ++
      "__rsub__ __rxor__ __sub__ __xor__ copy difference intersection isdisjoint " ++
      "issubset issuperset symmetric_difference union" },
  { name := "function"
    bases := ["object"]
    counts := "Callable"
    members := "__builtins__ __call__ __closure__ __code__ __defaults__ __get__ __globals__ " ++
      "__kwdefaults__ __name__ __qualname__" },
  { name := "generator"
    bases := ["object"]
    counts := "Generator Iterable Iterator"
    members := "__del__ __iter__ __name__ __next__ __qualname__ close gi_code gi_frame " ++
      "gi_running gi_suspended gi_yieldfrom send throw" },
  { name := "getset_descriptor"
    bases := ["object"]
    members := "__delete__ __get__ __name__ __objclass__ __qualname__ __set__" },
  { name := "int"
    bases := ["object"]
    members := "__abs__ __add__ __and__ __bool__ __ceil__ __divmod__ __float__ __floor__ " ++
      "__floordiv__ __getnewargs__ __index__ __int__ __invert__ __lshift__ __mod__ " ++
      "__mul__ __neg__ __or__ __pos__ __pow__ __radd__ __rand__ __rdivmod__ " ++
      "__rfloordiv__ __rlshift__ __rmod__ __rmul__ __ror__ __round__ __rpow__ " ++
      "__rrshift__ __rshift__ __rsub__ __rtruediv__ __rxor__ __sub__ __truediv__ " ++
      "__trunc__ __xor__ as_integer_ratio bit_count bit_length conjugate denominator " ++
      "from_bytes imag numerator real to_bytes" },
  { name := "list"
    bases := ["object"]
    counts := "Collection Container Iterable MutableSequence Reversible Sequence Sized"
    isHashable := false
    members := "__add__ __class_getitem__ __contains__ __delitem__ __getitem__ __iadd__ " ++
      "__imul__ __iter__ __len__ __mul__ __reversed__ __rmul__ __setitem__ append clear copy " ++
      "count extend index insert pop remove reverse sort" },
  { name := "list_iterator"
    bases := ["object"]
    counts := "Iterable Iterator"
    members := "__iter__ __length_hint__ __next__ __setstate__" },
  { name := "list_reverseiterator"
    bases := ["object"]
    counts := "Iterable Iterator"
    members := "__iter__ __length_hint__ __next__ __setstate__" },
  { name := "longrange_iterator"
    bases := ["object"]
    counts := "Iterable Iterator"
    members := "__iter__ __length_hint__ __next__ __setstate__" },
  { name := "map"
    bases := ["object"]
    counts := "Iterable Iterator"
    members := "__iter__ __next__" },
  { name := "mappingproxy"
    bases := ["object"]
    counts := "Collection Container Iterable Mapping Reversible Sized"
    isHashable := false
    members := "__class_getitem__ __contains__ __getitem__ __ior__ __iter__ __len__ __or__ " ++
      "__reversed__ __ror__ copy get items keys values" },
  { name := "member_descriptor"
    bases := ["object"]
    members := "__delete__ __get__ __name__ __objclass__ __qualname__ __set__" },
  { name := "memory_iterator"
    bases := ["object"]
    counts := "Iterable Iterator"
    members := "__iter__ __next__" },
  { name := "memoryview"
    bases := ["object"]
    counts := "AbstractContextManager Collection Container Iterable Reversible Sequence Sized"
    members := "__delitem__ __enter__ __exit__ __getitem__ __iter__ __len__ __setitem__ " ++
      "c_contiguous cast contiguous f_contiguous format hex itemsize nbytes ndim obj " ++
      "readonly release shape strides suboffsets tobytes tolist toreadonly" },
  { name := "method"
    bases := ["object"]
    counts := "Callable"
    members := "__call__ __func__ __self__" },
  { name := "method-wrapper"
    bases := ["object"]
    counts := "Callable"
    members := "__call__ __name__ __objclass__ __qualname__ __self__" },
  { name := "method_descriptor"
    bases := ["object"]
    counts := "Callable"
    members := "__call__ __get__ __name__ __objclass__ __qualname__" },
  { name := "module"
    bases := ["object"] },
  { name := "object"
    bases := [] },
  { name := "odict_items"
    bases := ["dict_items"]
    members := "__iter__ __reversed__" },
  { name := "odict_iterator"
    bases := ["object"]
    counts := "Iterable Iterator"
    members := "__iter__ __next__" },
  { name := "odict_keys"
    bases := ["dict_keys"]
    members := "__iter__ __reversed__" },
  { name := "odict_values"
    bases := ["dict_values"]
    members := "__iter__ __reversed__" },
  { name := "property"
    bases := ["object"]
    members := "__delete__ __get__ __isabstractmethod__ __set__ __set_name__ deleter fdel fget " ++
      "fset getter setter" },
  { name := "range"
    bases := ["object"]
    counts := "Collection Container Iterable Reversible Sequence Sized"
    members := "__bool__ __contains__ __getitem__ __iter__ __len__ __reversed__ count index " ++
      "start step stop" },
  { name := "range_iterator"
    bases := ["object"]
    counts := "Iterable Iterator"
    members := "__iter__ __length_hint__ __next__ __setstate__" },
  { name := "reversed"
    bases := ["object"]
    counts := "Iterable Iterator"
    members := "__iter__ __length_hint__ __next__ __setstate__" },
  { name := "set"
    bases := ["object"]
    counts := "Collection Container Iterable MutableSet Set Sized"
    isHashable := false
    members := "__and__ __class_getitem__ __contains__ __iand__ __ior__ __isub__ __iter__ " ++
      "__ixor__ __len__ __or__ __rand__ __ror__ __rsub__ __rxor__ __sub__ __xor__ add " ++
      "clear copy difference difference_update discard intersection intersection_update " ++
      "isdisjoint issubset issuperset pop remove symmetric_difference " ++
      "symmetric_difference_update union update" },
  { name := "set_iterator"
    bases := ["object"]
    counts := "Iterable Iterator"
    members := "__iter__ __length_hint__ __next__" },
  { name := "slice"
    bases := ["object"]
    isHashable := false
    members := "indices start step stop" },
  { name := "staticmethod"
    bases := ["object"]
    counts := "Callable"
    members := "__call__ __func__ __get__ __isabstractmethod__ __wrapped__" },
  { name := "str"
    bases := ["object"]
    counts := "Collection Container Iterable Reversible Sequence Sized"
    members := "__add__ __contains__ __getitem__ __getnewargs__ __iter__ __len__ __mod__ " ++
      "__mul__ __rmod__ __rmul__ capitalize casefold center count encode endswith expandtabs " ++
      "find format format_map index isalnum isalpha isascii isdecimal isdigit isidentifier " ++
      "islower isnumeric isprintable isspace istitle isupper join ljust lower lstrip maketrans " ++
      "partition removeprefix removesuffix replace rfind rindex rjust rpartition rsplit rstrip " ++
      "split splitlines startswith strip swapcase title translate upper zfill" },
  { name := "str_ascii_iterator"
    bases := ["object"]
    counts := "Iterable Iterator"
    members := "__iter__ __length_hint__ __next__ __setstate__" },
  { name := "str_iterator"
    bases := ["object"]
    counts := "Iterable Iterator"
    members := "__iter__ __length_hint__ __next__ __setstate__" },
  { name := "super"
    bases := ["object"]
    members := "__get__ __self__ __self_class__ __thisclass__" },
  { name := "tuple"
    bases := ["object"]
    counts := "Collection Container Iterable Reversible Sequence Sized"
    members := "__add__ __class_getitem__ __contains__ __getitem__ __getnewargs__ __iter__ " ++
      "__len__ __mul__ __rmul__ count index" },
  { name := "tuple_iterator"
    bases := ["object"]
    counts := "Iterable Iterator"
    members := "__iter__ __length_hint__ __next__ __setstate__" },
  { name := "type"
    bases := ["object"]
    counts := "Callable"
    members := "__base__ __bases__ __basicsize__ __call__ __dictoffset__ __flags__ " ++
      "__instancecheck__ __itemsize__ __mro__ __name__ __or__ __prepare__ __qualname__ " ++
      "__ror__ __subclasscheck__ __subclasses__ __weakrefoffset__ mro" },
  { name := "wrapper_descriptor"
    bases := ["object"]
    counts := "Callable"
    members := "__call__ __get__ __name__ __objclass__ __qualname__" },
  { name := "zip"
    bases := ["object"]
    counts := "Iterable Iterator"
    members := "__iter__ __next__ __setstate__" }]

end Catalogue
end Annotation
end BoundUpdate
