import BoundUpdate.Annotation.Catalogue.Row

namespace BoundUpdate
namespace Annotation
namespace Catalogue

/-!
# Collections

Abstract collections, which other classes count as, and concrete ones.
-/

/-- Classes of the libraries of collections, abstract and concrete. -/
def collections : List Row := [
  { name := "_collections._deque_iterator"
    bases := ["object"]
    counts := "Iterable Iterator"
    members := "__iter__ __length_hint__ __next__" },
  { name := "_collections._deque_reverse_iterator"
    bases := ["object"]
    counts := "Iterable Iterator"
    members := "__iter__ __length_hint__ __next__" },
  { name := "abc.ABC"
    bases := ["object"]
    kind := "abc.ABCMeta" },
  { name := "abc.ABCMeta"
    bases := ["type"]
    members := "__instancecheck__ __subclasscheck__ _dump_registry register" },
  { name := "collections.ChainMap"
    bases := ["collections.abc.MutableMapping"]
    kind := "abc.ABCMeta"
    members := "__bool__ __contains__ __copy__ __delitem__ __getitem__ __ior__ __iter__ __len__ " ++
      "__missing__ __or__ __ror__ __setitem__ clear copy fromkeys get new_child parents " ++
      "pop popitem" },
  { name := "collections.Counter"
    bases := ["dict"]
    isHashable := false
    members := "__add__ __and__ __delitem__ __iadd__ __iand__ __ior__ __isub__ __missing__ " ++
      "__neg__ __or__ __pos__ __sub__ _keep_positive copy elements fromkeys most_common " ++
      "subtract total update" },
  { name := "collections.OrderedDict"
    bases := ["dict"]
    isHashable := false
    members := "__delitem__ __ior__ __iter__ __or__ __reversed__ __ror__ __setitem__ clear copy " ++
      "fromkeys items keys move_to_end pop popitem setdefault update values" },
  { name := "collections.UserDict"
    bases := ["collections.abc.MutableMapping"]
    kind := "abc.ABCMeta"
    members := "__contains__ __copy__ __delitem__ __getitem__ __ior__ __iter__ __len__ __or__ " ++
      "__ror__ __setitem__ copy fromkeys" },
  { name := "collections.UserList"
    bases := ["collections.abc.MutableSequence"]
    kind := "abc.ABCMeta"
    isHashable := false
    members := "_UserList__cast __add__ __contains__ __copy__ __delitem__ __getitem__ __iadd__ " ++
      "__imul__ __len__ __mul__ __radd__ __rmul__ __setitem__ append clear copy count " ++
      "extend index insert pop remove reverse sort" },
  { name := "collections.UserString"
    bases := ["collections.abc.Sequence"]
    kind := "abc.ABCMeta"
    members := "__add__ __complex__ __contains__ __float__ __getitem__ __getnewargs__ __int__ " ++
      "__len__ __mod__ __mul__ __radd__ __rmod__ __rmul__ capitalize casefold center " ++
      "count encode endswith expandtabs find format format_map index isalnum isalpha " ++
      "isascii isdecimal isdigit isidentifier islower isnumeric isprintable isspace " ++
      "istitle isupper join ljust lower lstrip maketrans partition removeprefix " ++
      "removesuffix replace rfind rindex rjust rpartition rsplit rstrip split splitlines " ++
      "startswith strip swapcase title translate upper zfill" },
  { name := "collections.abc.AsyncGenerator"
    bases := ["collections.abc.AsyncIterator"]
    kind := "abc.ABCMeta"
    members := "__anext__ aclose asend athrow" },
  { name := "collections.abc.AsyncIterable"
    bases := ["object"]
    kind := "abc.ABCMeta"
    members := "__aiter__ __class_getitem__" },
  { name := "collections.abc.AsyncIterator"
    bases := ["collections.abc.AsyncIterable"]
    kind := "abc.ABCMeta"
    members := "__aiter__ __anext__" },
  { name := "collections.abc.Awaitable"
    bases := ["object"]
    kind := "abc.ABCMeta"
    members := "__await__ __class_getitem__" },
  { name := "collections.abc.ByteString"
    bases := ["collections.abc.Sequence"]
    kind := "abc.ABCMeta" },
  { name := "collections.abc.Callable"
    bases := ["object"]
    kind := "abc.ABCMeta"
    members := "__call__ __class_getitem__" },
  { name := "collections.abc.Collection"
    bases := ["collections.abc.Sized", "collections.abc.Iterable", "collections.abc.Container"]
    kind := "abc.ABCMeta" },
  { name := "collections.abc.Container"
    bases := ["object"]
    kind := "abc.ABCMeta"
    members := "__class_getitem__ __contains__" },
  { name := "collections.abc.Coroutine"
    bases := ["collections.abc.Awaitable"]
    kind := "abc.ABCMeta"
    members := "close send throw" },
  { name := "collections.abc.Generator"
    bases := ["collections.abc.Iterator"]
    kind := "abc.ABCMeta"
    members := "__next__ close send throw" },
  { name := "collections.abc.Hashable"
    bases := ["object"]
    kind := "abc.ABCMeta" },
  { name := "collections.abc.ItemsView"
    bases := ["collections.abc.MappingView", "collections.abc.Set"]
    kind := "abc.ABCMeta"
    members := "__contains__ __iter__ _from_iterable" },
  { name := "collections.abc.Iterable"
    bases := ["object"]
    kind := "abc.ABCMeta"
    members := "__class_getitem__ __iter__" },
  { name := "collections.abc.Iterator"
    bases := ["collections.abc.Iterable"]
    kind := "abc.ABCMeta"
    members := "__iter__ __next__" },
  { name := "collections.abc.KeysView"
    bases := ["collections.abc.MappingView", "collections.abc.Set"]
    kind := "abc.ABCMeta"
    members := "__contains__ __iter__ _from_iterable" },
  { name := "collections.abc.Mapping"
    bases := ["collections.abc.Collection"]
    kind := "abc.ABCMeta"
    isHashable := false
    members := "__contains__ __getitem__ get items keys values" },
  { name := "collections.abc.MappingView"
    bases := ["collections.abc.Sized"]
    kind := "abc.ABCMeta"
    members := "__class_getitem__ __len__ _mapping" },
  { name := "collections.abc.MutableMapping"
    bases := ["collections.abc.Mapping"]
    kind := "abc.ABCMeta"
    members := "__delitem__ __setitem__ clear pop popitem setdefault update" },
  { name := "collections.abc.MutableSequence"
    bases := ["collections.abc.Sequence"]
    kind := "abc.ABCMeta"
    members := "__delitem__ __iadd__ __setitem__ append clear extend insert pop remove reverse" },
  { name := "collections.abc.MutableSet"
    bases := ["collections.abc.Set"]
    kind := "abc.ABCMeta"
    members := "__iand__ __ior__ __isub__ __ixor__ add clear discard pop remove" },
  { name := "collections.abc.Reversible"
    bases := ["collections.abc.Iterable"]
    kind := "abc.ABCMeta"
    members := "__reversed__" },
  { name := "collections.abc.Sequence"
    bases := ["collections.abc.Reversible", "collections.abc.Collection"]
    kind := "abc.ABCMeta"
    members := "__contains__ __getitem__ __iter__ __reversed__ count index" },
  { name := "collections.abc.Set"
    bases := ["collections.abc.Collection"]
    kind := "abc.ABCMeta"
    isHashable := false
    members := "__and__ __or__ __rand__ __ror__ __rsub__ __rxor__ __sub__ __xor__ " ++
      "_from_iterable _hash isdisjoint" },
  { name := "collections.abc.Sized"
    bases := ["object"]
    kind := "abc.ABCMeta"
    members := "__len__" },
  { name := "collections.abc.ValuesView"
    bases := ["collections.abc.MappingView", "collections.abc.Collection"]
    kind := "abc.ABCMeta"
    members := "__contains__ __iter__" },
  { name := "collections.defaultdict"
    bases := ["dict"]
    members := "__class_getitem__ __copy__ __missing__ __or__ __ror__ copy default_factory" },
  { name := "collections.deque"
    bases := ["object"]
    counts := "Collection Container Iterable MutableSequence Reversible Sequence Sized"
    isHashable := false
    members := "__add__ __class_getitem__ __contains__ __copy__ __delitem__ __getitem__ " ++
      "__iadd__ __imul__ __iter__ __len__ __mul__ __reversed__ __rmul__ __setitem__ append " ++
      "appendleft clear copy count extend extendleft index insert maxlen pop popleft remove " ++
      "reverse rotate" },
  { name := "contextlib.AbstractAsyncContextManager"
    bases := ["abc.ABC"]
    kind := "abc.ABCMeta"
    members := "__aenter__ __aexit__ __class_getitem__" },
  { name := "contextlib.AbstractContextManager"
    bases := ["abc.ABC"]
    kind := "abc.ABCMeta"
    members := "__class_getitem__ __enter__ __exit__" },
  { name := "functools.partial"
    bases := ["object"]
    counts := "Callable"
    members := "__call__ __class_getitem__ __setstate__ __vectorcalloffset__ args func keywords" },
  { name := "operator.attrgetter"
    bases := ["object"]
    counts := "Callable"
    members := "__call__ __vectorcalloffset__" },
  { name := "operator.itemgetter"
    bases := ["object"]
    counts := "Callable"
    members := "__call__ __vectorcalloffset__" },
  { name := "operator.methodcaller"
    bases := ["object"]
    counts := "Callable"
    members := "__call__" },
  { name := "re.Match"
    bases := ["object"]
    members := "__class_getitem__ __copy__ __deepcopy__ __getitem__ end endpos expand group " ++
      "groupdict groups lastgroup lastindex pos re regs span start string" },
  { name := "re.Pattern"
    bases := ["object"]
    members := "__class_getitem__ __copy__ __deepcopy__ findall finditer flags fullmatch " ++
      "groupindex groups match pattern scanner search split sub subn" },
  { name := "types.GenericAlias"
    bases := ["object"]
    counts := "Callable Iterable"
    members := "__args__ __call__ __getitem__ __instancecheck__ __iter__ __mro_entries__ __or__ " ++
      "__origin__ __ror__ __subclasscheck__ __typing_unpacked_tuple_args__ __unpacked__" },
  { name := "types.SimpleNamespace"
    bases := ["object"]
    isHashable := false },
  { name := "types.UnionType"
    bases := ["object"]
    members := "__args__ __getitem__ __or__ __ror__" }]

end Catalogue
end Annotation
end BoundUpdate
