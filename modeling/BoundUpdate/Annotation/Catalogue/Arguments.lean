import BoundUpdate.Annotation.Catalogue.Row

namespace BoundUpdate
namespace Annotation
namespace Catalogue

/-!
# Classes of days, moments and decimals

Their values are not spelled out in annotations; arguments of statements are.
-/

/-- Classes of days, moments and decimals. -/
def arguments : List Row := [
  { name := "datetime.date"
    bases := ["object"]
    members := "__add__ __radd__ __rsub__ __sub__ ctime day fromisocalendar fromisoformat " ++
      "fromordinal fromtimestamp isocalendar isoformat isoweekday max min month replace " ++
      "resolution strftime timetuple today toordinal weekday year" },
  { name := "datetime.datetime"
    bases := ["datetime.date"]
    members := "__add__ __radd__ __rsub__ __sub__ astimezone combine ctime date dst fold " ++
      "fromisoformat fromtimestamp hour isoformat max microsecond min minute now replace " ++
      "resolution second strptime time timestamp timetuple timetz tzinfo tzname " ++
      "utcfromtimestamp utcnow utcoffset utctimetuple" },
  { name := "datetime.timedelta"
    bases := ["object"]
    members := "__abs__ __add__ __bool__ __divmod__ __floordiv__ __mod__ __mul__ __neg__ " ++
      "__pos__ __radd__ __rdivmod__ __rfloordiv__ __rmod__ __rmul__ __rsub__ __rtruediv__ " ++
      "__sub__ __truediv__ days max microseconds min resolution seconds total_seconds" },
  { name := "datetime.timezone"
    bases := ["datetime.tzinfo"]
    members := "__getinitargs__ dst fromutc max min tzname utc utcoffset" },
  { name := "datetime.tzinfo"
    bases := ["object"]
    members := "dst fromutc tzname utcoffset" },
  { name := "decimal.Decimal"
    bases := ["object"]
    members := "__abs__ __add__ __bool__ __ceil__ __complex__ __copy__ __deepcopy__ __divmod__ " ++
      "__float__ __floor__ __floordiv__ __int__ __mod__ __mul__ __neg__ __pos__ __pow__ " ++
      "__radd__ __rdivmod__ __rfloordiv__ __rmod__ __rmul__ __round__ __rpow__ __rsub__ " ++
      "__rtruediv__ __sub__ __truediv__ __trunc__ adjusted as_integer_ratio as_tuple " ++
      "canonical compare compare_signal compare_total compare_total_mag conjugate copy_abs " ++
      "copy_negate copy_sign exp fma from_float imag is_canonical is_finite is_infinite " ++
      "is_nan is_normal is_qnan is_signed is_snan is_subnormal is_zero ln log10 logb " ++
      "logical_and logical_invert logical_or logical_xor max max_mag min min_mag " ++
      "next_minus next_plus next_toward normalize number_class quantize radix real " ++
      "remainder_near rotate same_quantum scaleb shift sqrt to_eng_string to_integral " ++
      "to_integral_exact to_integral_value" }]

end Catalogue
end Annotation
end BoundUpdate
