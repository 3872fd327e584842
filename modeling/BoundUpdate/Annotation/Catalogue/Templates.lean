import BoundUpdate.Annotation.Catalogue.Row

namespace BoundUpdate
namespace Annotation
namespace Catalogue

/-!
# Classes of the library of templates

Classes that describe types, and the classes of such descriptions.
-/

/-- Classes of the library of templates. -/
def templates : List Row := [
  { name := "typing.Annotated"
    bases := ["object"]
    members := "__class_getitem__ _class_getitem_inner" },
  { name := "typing.Any"
    bases := ["object"]
    kind := "typing._AnyMeta" },
  { name := "typing.BinaryIO"
    bases := ["typing.IO"]
    members := "__enter__ write" },
  { name := "typing.ForwardRef"
    bases := ["typing._Final"]
    members := "__forward_arg__ __forward_code__ __forward_evaluated__ __forward_is_argument__ " ++
      "__forward_is_class__ __forward_module__ __forward_value__ __or__ __ror__ " ++
      "_evaluate" },
  { name := "typing.Generic"
    bases := ["object"]
    members := "__class_getitem__" },
  { name := "typing.IO"
    bases := ["typing.Generic"]
    counts := "AbstractContextManager"
    members := "__enter__ __exit__ close closed fileno flush isatty mode name read readable " ++
      "readline readlines seek seekable tell truncate writable write writelines" },
  { name := "typing.NamedTupleMeta"
    bases := ["type"] },
  { name := "typing.NewType"
    bases := ["object"]
    counts := "Callable"
    members := "__call__ __mro_entries__ __or__ __ror__" },
  { name := "typing.ParamSpec"
    bases := ["typing._Final", "typing._Immutable", "typing._BoundVarianceMixin",
      "typing._PickleUsingNameMixin"]
    members := "__typing_prepare_subst__ __typing_subst__ args kwargs" },
  { name := "typing.ParamSpecArgs"
    bases := ["typing._Final", "typing._Immutable"]
    isHashable := false },
  { name := "typing.ParamSpecKwargs"
    bases := ["typing._Final", "typing._Immutable"]
    isHashable := false },
  { name := "typing.Protocol"
    bases := ["typing.Generic"]
    kind := "typing._ProtocolMeta" },
  { name := "typing.SupportsAbs"
    bases := ["typing.Protocol"]
    kind := "typing._ProtocolMeta"
    members := "__abs__" },
  { name := "typing.SupportsBytes"
    bases := ["typing.Protocol"]
    kind := "typing._ProtocolMeta"
    members := "__bytes__" },
  { name := "typing.SupportsComplex"
    bases := ["typing.Protocol"]
    kind := "typing._ProtocolMeta"
    members := "__complex__" },
  { name := "typing.SupportsFloat"
    bases := ["typing.Protocol"]
    kind := "typing._ProtocolMeta"
    members := "__float__" },
  { name := "typing.SupportsIndex"
    bases := ["typing.Protocol"]
    kind := "typing._ProtocolMeta"
    members := "__index__" },
  { name := "typing.SupportsInt"
    bases := ["typing.Protocol"]
    kind := "typing._ProtocolMeta"
    members := "__int__" },
  { name := "typing.SupportsRound"
    bases := ["typing.Protocol"]
    kind := "typing._ProtocolMeta"
    members := "__round__" },
  { name := "typing.TextIO"
    bases := ["typing.IO"]
    members := "__enter__ buffer encoding errors line_buffering newlines" },
  { name := "typing.TypeVar"
    bases := ["typing._Final", "typing._Immutable", "typing._BoundVarianceMixin",
      "typing._PickleUsingNameMixin"]
    members := "__typing_subst__" },
  { name := "typing.TypeVarTuple"
    bases := ["typing._Final", "typing._Immutable", "typing._PickleUsingNameMixin"]
    counts := "Iterable"
    members := "__iter__ __typing_prepare_subst__ __typing_subst__" },
  { name := "typing._AnnotatedAlias"
    bases := ["typing._NotIterable", "typing._GenericAlias"]
    members := "__getattr__ copy_with" },
  { name := "typing._AnyMeta"
    bases := ["type"]
    members := "__instancecheck__" },
  { name := "typing._BaseGenericAlias"
    bases := ["typing._Final"]
    counts := "Callable"
    members := "__call__ __getattr__ __instancecheck__ __mro_entries__ __subclasscheck__" },
  { name := "typing._BoundVarianceMixin"
    bases := ["object"]
    members := "__or__ __ror__" },
  { name := "typing._CallableGenericAlias"
    bases := ["typing._NotIterable", "typing._GenericAlias"] },
  { name := "typing._CallableType"
    bases := ["typing._SpecialGenericAlias"]
    members := "__getitem__ __getitem_inner__ copy_with" },
  { name := "typing._ConcatenateGenericAlias"
    bases := ["typing._GenericAlias"]
    members := "copy_with" },
  { name := "typing._Final"
    bases := ["object"] },
  { name := "typing._GenericAlias"
    bases := ["typing._BaseGenericAlias"]
    counts := "Iterable"
    members := "__getitem__ __iter__ __mro_entries__ __or__ __ror__ _determine_new_args " ++
      "_make_substitution copy_with" },
  { name := "typing._Immutable"
    bases := ["object"]
    members := "__copy__ __deepcopy__" },
  { name := "typing._LiteralGenericAlias"
    bases := ["typing._GenericAlias"] },
  { name := "typing._LiteralSpecialForm"
    bases := ["typing._SpecialForm"]
    members := "__getitem__" },
  { name := "typing._NotIterable"
    bases := ["object"] },
  { name := "typing._PickleUsingNameMixin"
    bases := ["object"] },
  { name := "typing._ProtocolMeta"
    bases := ["abc.ABCMeta"]
    members := "__instancecheck__" },
  { name := "typing._SpecialForm"
    bases := ["typing._Final", "typing._NotIterable"]
    counts := "Callable"
    members := "__call__ __getattr__ __getitem__ __instancecheck__ __mro_entries__ __or__ " ++
      "__ror__ __subclasscheck__ _getitem _name" },
  { name := "typing._SpecialGenericAlias"
    bases := ["typing._NotIterable", "typing._BaseGenericAlias"]
    members := "__getitem__ __or__ __ror__ __subclasscheck__ copy_with" },
  { name := "typing._TupleType"
    bases := ["typing._SpecialGenericAlias"]
    members := "__getitem__" },
  { name := "typing._TypedDictMeta"
    bases := ["type"]
    members := "__call__ __instancecheck__ __subclasscheck__" },
  { name := "typing._UnionGenericAlias"
    bases := ["typing._NotIterable", "typing._GenericAlias"]
    members := "__instancecheck__ __subclasscheck__ copy_with" },
  { name := "typing._UnpackGenericAlias"
    bases := ["typing._GenericAlias"]
    members := "__getitem__ __typing_is_unpacked_typevartuple__ __typing_unpacked_tuple_args__" },
  { name := "typing.io"
    bases := ["object"]
    members := "BinaryIO IO TextIO __all__" },
  { name := "typing.re"
    bases := ["object"]
    members := "Match Pattern __all__" }]

end Catalogue
end Annotation
end BoundUpdate
