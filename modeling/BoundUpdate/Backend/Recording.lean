import BoundUpdate.Backend.Unit
import BoundUpdate.Template.Marker

namespace BoundUpdate

/-!
# Recording units

A recording unit executes nothing.  It makes every operation observable and
reports what it was set up to report: a number of rows, keys, or a failure.
-/

/-- What a recording unit reports. -/
structure Recording where
  /-- The rows that one execution affects. -/
  rows : Int := 1
  keys : List Value := []
  /-- The failure of executing. -/
  failure : Option Failure := none
  /-- The failure of preparing. -/
  prepareFailure : Option Failure := none

namespace Recording

/-- Fail, or go on with a value. -/
def orFail {α : Type} (failure : Option Failure) (a : α) : Act α :=
  match failure with
  | some failure => throw failure
  | none => pure a

/-- The unit behind the observable operations. -/
def silent (r : Recording) : ExecutionUnit where
  prepare t keys columns :=
    orFail r.prepareFailure
      { template := t, sql := t.render .qmark, keys, keyColumns := columns }
  bind s position v := Act.ofExcept (s.bindAt position v)
  executeSingle _ :=
    orFail r.failure { rowsAffected := r.rows, perRow := [r.rows], keys := r.keys }
  executeBatch _ sets := do
    let sets ← Act.ofExcept sets.toItems
    orFail r.failure
      { rowsAffected := r.rows * sets.length, perRow := sets.map fun _ => r.rows }

/-- The recording unit. -/
def unit (r : Recording) : ExecutionUnit := r.silent.observed

/-- The recording unit that cannot execute. -/
def halfUnit (r : Recording) : ExecutionUnit where
  prepare := r.unit.prepare
  bind := r.unit.bind
  executeSingle := ExecutionUnit.abstract.executeSingle
  executeBatch := ExecutionUnit.abstract.executeBatch

end Recording
end BoundUpdate
