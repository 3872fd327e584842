import BoundUpdate.Lookup.Attribute
import BoundUpdate.Value.Dictionary

namespace BoundUpdate
namespace Lookup

/-!
# Objects as dictionaries

An object with a member `keys` is taken as a dictionary by asking it: calling
the member gives the keys, and applying the object to a key gives the value.
Any other value is taken as a dictionary by what it holds.
-/

/-- The failure of applying a value that cannot be applied to keys. -/
def notApplicable (v : Value) : Failure :=
  let owner := match v with
    | .type b => "type '" ++ b.name ++ "'"
    | v => "'" ++ v.qualifiedTypeName ++ "' object"
  .elementary .wrongType (owner ++ " is not subscriptable")

/-- The value that an object holds under a key. -/
def itemOf (v key : Value) : Probe Value :=
  (askSpecial? v "__getitem__" [key]).getD (throw (notApplicable v))

/-- Whether a value holds a key: as its type says, or else as an item. -/
def holds (v key : Value) : Probe Bool :=
  match askSpecial? v "__contains__" [key] with
  | some answer => do Probe.ofExcept (← answer).truth
  | none =>
    match v.toItems with
    | .ok items => pure (items.any (Value.sameKey key))
    | .error failure =>
      throw (if failure = Value.notIterable v then
        .elementary .wrongType ("argument of type '" ++ v.qualifiedTypeName ++ "' is not iterable")
      else failure)

/-- The attribute of a value, if it has one. -/
def attribute? (v : Value) (name : String) : Probe (Option Attribute) :=
  unlessMissing (readAttribute v name)

/-- The entries that an object tells by its keys. -/
def entriesByKeys (v : Value) : List Value → Probe Value.Entries
  | [] => return []
  | key :: rest => do
    let item ← itemOf v key
    let key ← Probe.ofExcept key.asKey
    return Value.Entries.merge [(key, item)] (← entriesByKeys v rest)

/-- The entries of a value that is taken as a dictionary. -/
def entriesOf (v : Value) : Probe Value.Entries := do
  let keys ← match v with
    | .object .. => attribute? v "keys"
    | .type _ => attribute? v "keys"
    | _ => pure none
  match keys with
  | none => Probe.ofExcept v.toEntries
  | some keys =>
    let told ← (callAttribute? keys []).getD
      (throw (.elementary .wrongType "keys is not callable"))
    match told.toItems with
    | .ok told => entriesByKeys v told
    | .error _ => throw (.elementary .wrongType
        (v.qualifiedTypeName ++ ".keys() returned a non-iterable (type " ++ told.typeName ++ ")"))

end Lookup
end BoundUpdate
