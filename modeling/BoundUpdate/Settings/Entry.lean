import BoundUpdate.Lookup.Entries
import BoundUpdate.Settings.Basic
import BoundUpdate.Settings.Dsn
import BoundUpdate.Settings.Reference
import BoundUpdate.Value.Dictionary
import BoundUpdate.Value.Display

namespace BoundUpdate
namespace DatabaseEntry

/-!
# Database entries from dictionaries

An entry is described by a data source name or by a type and parts.  When there
is a name, the parts come from it alone; the described type wins over the one
that the name tells, and the described options win over those in the name.
-/

/-- The options of a description. -/
def describedOptions (d : Value.Entries) : Except Failure Value :=
  (d.getD "options" (.dict [])).orElse (.dict [])

/-- The type that a description or its data source name tells. -/
def typeFor (d : Value.Entries) (dsn : Value) : Except Failure Value := do
  let described := d.getD "type" .none
  if ← described.truth then return described
  else
    match ← Dsn.typeOf dsn with
    | some type =>
      if type.isEmpty then throw (.configuration .typeNotInferred) else return .text type
    | none => throw (.configuration .typeNotInferred)

/-- The type without the driver after a plus sign. -/
def plainType (type : Value) : Except Failure Value :=
  match type.text?, type with
  | some s, _ => .ok (.text (String.ofList (Text.before '+' s.toList)))
  | none, .bytes _ =>
    .error (.elementary .wrongType "a bytes-like object is required, not 'str'")
  | none, v => do
    let parts ← Lookup.firstOutcome (Lookup.ask v "split" [.text "+", .int 1])
    match parts.sequence? with
    | some (first :: _) => return first
    | some [] => throw (.elementary .outOfRange "list index out of range")
    | none => throw (.elementary .wrongType
        ("'" ++ parts.qualifiedTypeName ++ "' object is not subscriptable"))

/-- The failure of options that are no mapping. -/
def notMapping (v : Value) : Failure :=
  .elementary .wrongType ("'" ++ v.qualifiedTypeName ++ "' object is not a mapping")

/-- The options of a data source name under the described ones. -/
def mergedOptions (parts : Dsn) (d : Value.Entries) : Except Failure Value := do
  let options ← describedOptions d
  let merged := fun described => Value.dict (Value.Entries.merge parts.options described)
  match options.entries?, options with
  | some described, _ => return merged described
  | none, .object b fields =>
    match ← Lookup.firstOutcome (Lookup.attribute? options "keys") with
    | none => throw (notMapping options)
    | some _ => return merged (← Lookup.firstOutcome (Lookup.entriesOf (.object b fields)))
  | none, options => throw (notMapping options)

/-- A text, or nothing. -/
def ofText? : Option String → Value
  | some s => .text s
  | none => .none

/-- The entry that a data source name describes. -/
def ofDsn (d : Value.Entries) (dsn : Value) : Except Failure DatabaseEntry := do
  let type ← typeFor d dsn
  let parts ← Dsn.read dsn
  let options ← mergedOptions parts d
  let type ← plainType type
  return { type, dsn, options
           host := (parts.server.map Prod.fst).getD .none
           port := (parts.server.map Prod.snd).getD .none
           user := ofText? parts.user
           password := ofText? parts.password
           database := parts.database }

/-- The entry that a type and parts describe. -/
def ofParts (d : Value.Entries) : Except Failure DatabaseEntry := do
  let type := d.getD "type" .none
  if ← type.truth then
    return { type
             dsn := d.getD "dsn" .none
             host := d.getD "host" .none
             user := d.getD "user" .none
             password := d.getD "password" .none
             port := d.getD "port" .none
             database := d.getD "database" .none
             options := ← describedOptions d }
  else throw (.configuration .typeMissing)

/-- The entry that a dictionary describes, with its references to variables replaced. -/
def ofEntries (nesting : Nat) (environment : List (String × String)) (described : Value.Entries) :
    Except Failure DatabaseEntry := do
  let d ← Reference.expandedEntries nesting environment described
  let dsn := Value.Entries.getD d "dsn" .none
  if ← dsn.truth then ofDsn d dsn else ofParts d

/-- The entry that a value describes. -/
def read (nesting : Nat) (environment : List (String × String)) (v : Value) :
    Except Failure DatabaseEntry := do
  ofEntries nesting environment (← v.toEntries)

/-- The entry that a value describes in the present surroundings; an object may tell its keys and
their values itself. -/
def describedBy (v : Value) : Act DatabaseEntry := do
  let described ← Act.probe (Lookup.entriesOf v)
  let s ← Act.surroundings
  Act.ofExcept (ofEntries s.nesting s.environment described)

/-- The parts of an entry that may be shown: all but the password. -/
def shownParts (e : DatabaseEntry) : List (String × Value) :=
  [("type", e.type), ("dsn", e.dsn), ("host", e.host), ("user", e.user), ("port", e.port),
   ("database", e.database), ("options", e.options)]

/-- An entry as messages show it. -/
def shown (e : DatabaseEntry) : String :=
  "DatabaseConfig(" ++
    String.intercalate ", " (e.shownParts.map fun (name, v) => name ++ "=" ++ v.shown) ++ ")"

end DatabaseEntry
end BoundUpdate
