import BoundUpdate.Backend.Unit
import BoundUpdate.Invocation.Batch
import BoundUpdate.Invocation.Outcome
import BoundUpdate.Invocation.Slots

namespace BoundUpdate

/-!
# Invocations

An invocation binds all values before its unit is asked for anything, so a
failure of binding never reaches a database.  A bound invocation is executed at
most once: it ends executed or discarded and stays so.
-/

/-- How far an invocation is. -/
inductive InvocationState where
  | unbound
  | singleBound
  | batchBound
  | executed
  | discarded
  deriving DecidableEq, Repr

namespace InvocationState

/-- The word for a state. -/
def word : InvocationState → String
  | .unbound => "unbound"
  | .singleBound => "single_bound"
  | .batchBound => "batch_bound"
  | .executed => "executed"
  | .discarded => "discarded"

/-- All states. -/
def all : List InvocationState := [.unbound, .singleBound, .batchBound, .executed, .discarded]

/-- The state that a value chooses. -/
def ofValue (v : Value) : Except Failure InvocationState := chosenBy "ExecutionState" all word v

/-- Whether an invocation in this state can be executed. -/
def isBound : InvocationState → Bool
  | .singleBound => true
  | .batchBound => true
  | _ => false

end InvocationState

/-- An invocation of a declared update. -/
structure Invocation where
  arguments : List Value := []
  /-- The bound values: one list for every execution. -/
  parameterSets : List (List Value) := []
  /-- The number of rows of a batch. -/
  batchLength : Option Nat := none
  state : InvocationState := .unbound

namespace Invocation

/-- The bound values of a row, whose items are read before they are bound. -/
def bindRow (spec : Spec) (convention : AccessorConvention) (items : List (Probe Value)) :
    Act (List Value) := do
  let row ← Act.probe (Batch.readRow items)
  spec.bindAll convention row

/-- The bound values of every row. -/
def bindRows (spec : Spec) (convention : AccessorConvention) :
    List (List (Probe Value)) → Act (List (List Value))
  | [] => pure []
  | items :: rest => do
    let values ← bindRow spec convention items
    let others ← bindRows spec convention rest
    return values :: others

/-- Bind an update to arguments. -/
def bind (spec : Spec) (convention : AccessorConvention) (arguments : List Value) :
    Act Invocation := do
  if spec.isBatch then
    let (n, columns) ← Act.probe (Batch.columns arguments)
    let parameterSets ← bindRows spec convention (Batch.rows n columns)
    return { arguments, parameterSets, batchLength := some n, state := .batchBound }
  else
    let values ← spec.bindAll convention arguments
    return { arguments, parameterSets := [values], state := .singleBound }

/-- Bind values at successive positions of a statement. -/
def bindParameters (u : ExecutionUnit) (s : Statement) (position : Nat) :
    List Value → Act Statement
  | [] => pure s
  | v :: rest => do
    let s ← u.bind s (.int position) v
    bindParameters u s (position + 1) rest

/-- Let a unit execute a bound invocation. -/
def perform (spec : Spec) (u : ExecutionUnit) (c : Invocation) : Act UnitResult := do
  if c.state = .batchBound then
    if c.parameterSets.isEmpty then
      Act.note .info .invocation (spec.name ++ ": empty batch, nothing executed")
      return {}
    else
      let s ← u.prepare spec.template spec.keys spec.keyColumns
      u.executeBatch s (.list (c.parameterSets.map .list))
  else
    let s ← u.prepare spec.template spec.keys spec.keyColumns
    match c.parameterSets with
    | [] => throw (.elementary .outOfRange "list index out of range")
    | values :: _ =>
      let s ← bindParameters u s 1 values
      u.executeSingle s

/-- The outcome that a unit's report gives. -/
def outcomeOf (spec : Spec) (r : UnitResult) : Outcome :=
  if spec.returns = .void then .void
  else if spec.wantsKeys then .keys r.keys (.int r.rowsAffected)
  else .rows (.int r.rowsAffected) (.tuple (r.perRow.map .int))

/-- The failure that leaves an invocation whose unit failed: a failure of the library and an
interruption stay as they are, any other one becomes a failure of execution. -/
def escalate (spec : Spec) (failure : Failure) : Act Failure :=
  if failure.kind.isLibrary || !failure.isOrdinary then pure failure
  else do
    let fault : ExecutionFault :=
      { name := spec.name, source := spec.template.source, cause := failure.toCause }
    Act.note .error .invocation fault.message
    return .execution fault

/-- Execute an invocation.  The answer holds the invocation afterwards, also when the execution
failed. -/
def execute (spec : Spec) (u : ExecutionUnit) (c : Invocation) :
    Act (Invocation × Except Failure Outcome) := do
  if c.state.isBound then
    match ← Act.attempt (perform spec u c) with
    | .ok r => return ({ c with state := .executed }, .ok (outcomeOf spec r))
    | .error failure =>
      let escaping ← escalate spec failure
      return ({ c with state := .discarded }, .error escaping)
  else
    return (c, .error (.raised .runtime
      ("Cannot execute an invocation in state " ++ c.state.word)))

/-- Bind an update and execute it. -/
def run (spec : Spec) (convention : AccessorConvention) (u : ExecutionUnit)
    (arguments : List Value) : Act Outcome := do
  let c ← bind spec convention arguments
  let (_, outcome) ← execute spec u c
  Act.ofExcept outcome

/-- Bind an update, execute it and take from the outcome what the call returns. -/
def call (spec : Spec) (convention : AccessorConvention) (u : ExecutionUnit)
    (arguments : List Value) : Act Value := do
  let outcome ← run spec convention u arguments
  outcome.extract spec.returns spec.keys

end Invocation
end BoundUpdate
