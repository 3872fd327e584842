import BoundUpdate.Conversion.Converter
import BoundUpdate.Declaration.Mode
import BoundUpdate.Template.Cache
import BoundUpdate.Text.Blank
import BoundUpdate.Value.Dictionary
import BoundUpdate.Value.Position

namespace BoundUpdate

/-!
# Declared updates

A declared update is a template with its modes, its converters by bind position
and the columns of the keys it wants.  Declaring one reads the template and
checks that the modes fit together; extra converters and placeholders without an
argument are noted, not refused.
-/

/-- A declared update. -/
structure Spec where
  template : Template
  /-- Counts as true when the update runs once for every row of its arguments. -/
  batch : Value := .bool false
  keys : KeyRequest := .none
  returns : ReturnShape := .count
  /-- The converters by bind position; `none` is the standard conversion. -/
  converters : List (Option Converter) := []
  keyColumns : List Value := []
  /-- How many arguments a call gives; nothing when that is not known. -/
  arity : Value := .none
  /-- What messages call the update, as it was declared. -/
  label : Value := .text "<query>"
  /-- The statement text as messages tell it. -/
  told : String := template.source

/-- What is declared about an update, before it is checked. -/
structure SpecRequest where
  sql : Value
  batch : Value := .bool false
  keys : Value := .text KeyRequest.none.word
  returns : Value := .text ReturnShape.count.word
  bindings : List ConverterEntry := []
  keyColumns : Value := .tuple []
  arity : Value := .none
  label : Option Value := none

namespace KeyRequest

/-- Whether any keys are wanted. -/
def isWanted (request : KeyRequest) : Bool := request != .none

/-- The name of a request. -/
def name : KeyRequest → String
  | .none => "NO_KEYS_RETURNED"
  | .firstColumn => "RETURNED_KEYS_FIRST_COLUMN"
  | .driverDefined => "RETURNED_KEYS_DRIVER_DEFINED"
  | .columns => "RETURNED_KEYS_COLUMNS_SPECIFIED"

end KeyRequest

namespace ReturnShape

/-- The name of a shape. -/
def name : ReturnShape → String
  | .count => "COUNT"
  | .counts => "COUNTS"
  | .void => "VOID"
  | .key => "KEY"
  | .keys => "KEYS"

/-- Whether a shape is made of generated keys. -/
def isKeys : ReturnShape → Bool
  | .key => true
  | .keys => true
  | _ => false

/-- Whether a shape is made of row counts. -/
def isCounts : ReturnShape → Bool
  | .count => true
  | .counts => true
  | _ => false

end ReturnShape

namespace Spec

/-- What messages call the update. -/
def name (spec : Spec) : String := spec.label.plain

/-- Whether the update runs once for every row of its arguments. -/
def isBatch (spec : Spec) : Bool := spec.batch.isTruthy

/-- Whether the update returns generated keys. -/
def wantsKeys (spec : Spec) : Bool := spec.keys.isWanted

/-- The converter of a bind position, counted from one; `none` is the standard conversion. -/
def converterAt (spec : Spec) (position : Value) : Except Failure (Option Converter) := do
  if ← position.isInside spec.converters.length then
    match (← position.minus 1).int? with
    | some n => return (spec.converters[n.toNat]?).join
    | none => throw (.elementary .wrongType
        ("indices must be integers or slices, not " ++ position.typeName))
  else return none

/-- At an integer, the converters are a list that the standard conversion extends on both sides. -/
theorem converterAt_int (spec : Spec) (n : Int) :
    spec.converterAt (.int n) =
      .ok (if n < 1 then none else (spec.converters[(n - 1).toNat]?).join) := by
  by_cases low : n < 1
  · have : ¬ (1 ≤ n ∧ n ≤ (spec.converters.length : Int)) := by omega
    simp [converterAt, low, this, bind, Except.bind, pure, Except.pure]
  · by_cases high : n ≤ (spec.converters.length : Int)
    · have : 1 ≤ n ∧ n ≤ (spec.converters.length : Int) := by omega
      simp [converterAt, low, this, bind, Except.bind, pure, Except.pure, Value.int?]
    · have outside : ¬ (1 ≤ n ∧ n ≤ (spec.converters.length : Int)) := by omega
      have beyond : spec.converters.length ≤ n.toNat - 1 := by omega
      simp [converterAt, low, outside, bind, Except.bind, pure, Except.pure,
        List.getElem?_eq_none beyond]

/-- The first rule about modes that a declaration breaks. -/
def modeFault? (name : String) (batch : Bool) (keys : KeyRequest) (returns : ReturnShape)
    (columns : List Value) : Option ConfigurationFault :=
  if batch && keys.isWanted then some (.batchWithKeys name)
  else if returns == .void && keys.isWanted then some (.voidWithKeys name)
  else if returns.isKeys && !keys.isWanted then some (.keysNotRequested name)
  else if returns.isCounts && keys.isWanted then some (.keysNotReturned name)
  else if returns == .counts && !batch then some (.countsWithoutBatch name)
  else if keys == .columns && columns.isEmpty then some (.columnsMissing name)
  else none

/-- Whether bytes are ASCII white space. -/
def isBlankByte (b : UInt8) : Bool := b.toNat == 32 || (9 ≤ b.toNat && b.toNat ≤ 13)

/-- Whether a statement is blank; texts and bytes can tell, and values that can be stripped. -/
def isBlankStatement (sql : Value) : Except Failure Bool := do
  if ← sql.truth then
    match sql.text?, sql with
    | some s, _ => return s.toList.all Text.isBlank
    | none, .bytes bs => return bs.all isBlankByte
    | none, v => return !(← (← Lookup.firstOutcome (Lookup.ask v "strip" [])).truth)
  else return true

/-- The items of a value that must be a collection. -/
def itemsOf (v : Value) : Except Failure (List Value) := v.toItems

/-- The converters that entries name, up to the first entry that names none. -/
def convertersOf : List ConverterEntry → Probe (List (Option Converter))
  | [] => pure []
  | entry :: rest => do
    let converter ← entry.toConverter
    let others ← convertersOf rest
    return converter :: others

/-- Note that there are more converters than placeholders. -/
def noteExtra (name : String) (converters placeholders : Nat) : Act Unit :=
  if placeholders < converters then
    Act.note .warning .specification
      (name ++ ": " ++ Number.natText converters ++ " parameter bindings for " ++
        Number.natText placeholders ++ " placeholders; extra bindings are ignored")
  else pure ()

/-- Note that the template refers to an argument that no call gives. -/
def noteUnreachable (name : String) (maxIndex : Int) : Value → Act Unit
  | .none => pure ()
  | arity => do
    if ← Act.ofExcept (arity.isBelow maxIndex) then
      Act.note .warning .specification
        (name ++ ": template references argument " ++ Number.intText maxIndex ++
          " but the method takes " ++ arity.plain ++ "; every call will fail")

/-- What messages call a declaration without a name. -/
def standardLabel : Value := .text "<query>"

/-- Declare an update: read its template and check its modes. -/
def build (request : SpecRequest) : Act Spec := do
  let label ← Act.ofExcept ((request.label.getD .none).orElse standardLabel)
  let name := label.plain
  if ← Act.ofExcept (isBlankStatement request.sql) then
    throw (.configuration (.noStatement name))
  let held ← Template.fetch request.sql
  let template := held.template
  let keys ← Act.ofExcept (KeyRequest.ofValue request.keys)
  let returns ← Act.ofExcept (ReturnShape.ofValue request.returns)
  let keyColumns ← Act.ofExcept (itemsOf request.keyColumns)
  match modeFault? name (← Act.ofExcept request.batch.truth) keys returns keyColumns with
  | some fault => throw (.configuration fault)
  | none =>
    let converters ← Act.probe (convertersOf request.bindings)
    noteExtra name converters.length template.placeholders.length
    noteUnreachable name template.maxIndex request.arity
    return { template, batch := request.batch, keys, returns, converters, keyColumns,
             arity := request.arity, label, told := held.told }

/-- A declared update whose modes are not checked. -/
def buildUnchecked (request : SpecRequest) : Act Spec := do
  let template ← Template.ofValue request.sql
  let keys ← Act.ofExcept (KeyRequest.ofValue request.keys)
  let returns ← Act.ofExcept (ReturnShape.ofValue request.returns)
  let converters ← Act.probe (convertersOf request.bindings)
  let keyColumns ← Act.ofExcept (itemsOf request.keyColumns)
  return { template, batch := request.batch, keys, returns, converters, keyColumns,
           arity := request.arity, label := request.label.getD standardLabel }

end Spec
end BoundUpdate
