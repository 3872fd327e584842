import BoundUpdate.Proofs.Declaration.Converters

namespace BoundUpdate

/-!
# Modes that fit together

Declaring an update checks its modes once.  What passes is told here without the
order of the checks: keys are wanted exactly when they are returned, never from
a batch, counts of single rows come from a batch only, and a request for columns
names some.
-/

namespace Spec

/-- The modes of an update fit together. -/
structure IsConsistent (spec : Spec) : Prop where
  wantsKeys_eq : spec.wantsKeys = spec.returns.isKeys
  single_of_keys : spec.wantsKeys = true → spec.isBatch = false
  batch_of_counts : spec.returns = .counts → spec.isBatch = true
  columns_named : spec.keys = .columns → spec.keyColumns ≠ []

/-- What the checks of the modes amount to. -/
theorem modeFault?_eq_none_iff {name : String} {batch : Bool} {keys : KeyRequest}
    {returns : ReturnShape} {columns : List Value} :
    modeFault? name batch keys returns columns = none ↔
      keys.isWanted = returns.isKeys ∧ (keys.isWanted = true → batch = false) ∧
        (returns = .counts → batch = true) ∧ (keys = .columns → columns ≠ []) := by
  unfold modeFault?
  cases returns <;> cases keys <;> cases batch <;>
    simp [KeyRequest.isWanted, ReturnShape.isKeys, ReturnShape.isCounts]

variable {request : SpecRequest} {spec : Spec} {declared : Activity}

/-- The frame of a declaration has modes without a fault and the arity that was told. -/
theorem checked_of_frame {after : Activity} (h : frame request declared = (.ok spec, after)) :
    modeFault? spec.name spec.isBatch spec.keys spec.returns spec.keyColumns = none ∧
      spec.arity = request.arity := by
  obtain ⟨label, _, -, h⟩ := Act.exists_of_bind_run_ok h
  obtain ⟨blank, _, -, h⟩ := Act.exists_of_bind_run_ok h
  cases blank with
  | true => cases h
  | false =>
    obtain ⟨held, _, -, h⟩ := Act.exists_of_bind_run_ok h
    obtain ⟨keys, _, -, h⟩ := Act.exists_of_bind_run_ok h
    obtain ⟨returns, _, -, h⟩ := Act.exists_of_bind_run_ok h
    obtain ⟨columns, _, -, h⟩ := Act.exists_of_bind_run_ok h
    obtain ⟨batch, _, hbatch, h⟩ := Act.exists_of_bind_run_ok h
    cases hfault : modeFault? label.plain batch keys returns columns with
    | some fault =>
      rw [hfault] at h
      cases h
    | none =>
      rw [hfault] at h
      cases h
      have htruth : request.batch.truth = .ok batch := congrArg Prod.fst hbatch
      rw [isBatch, Value.isTruthy_of_truth htruth]
      exact ⟨hfault, rfl⟩

/-- A declaration that succeeds gives an update whose modes fit together. -/
theorem isConsistent_of_build (h : (build request declared).1 = .ok spec) : spec.IsConsistent := by
  obtain ⟨framed, between, converters, hframe, -, -, rfl⟩ := build_eq_ok_iff.1 h
  obtain ⟨hkeys, hsingle, hcounts, hcolumns⟩ :=
    modeFault?_eq_none_iff.1 (checked_of_frame hframe).1
  exact ⟨hkeys, hsingle, hcounts, hcolumns⟩

/-- A declared update tells the arity that was declared. -/
theorem arity_of_build (h : (build request declared).1 = .ok spec) :
    spec.arity = request.arity := by
  obtain ⟨framed, between, converters, hframe, -, -, rfl⟩ := build_eq_ok_iff.1 h
  exact (checked_of_frame hframe).2

end Spec
end BoundUpdate
