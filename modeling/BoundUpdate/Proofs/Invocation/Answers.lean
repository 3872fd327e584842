import BoundUpdate.Proofs.Declaration.Modes
import BoundUpdate.Proofs.Invocation.Lifecycle

namespace BoundUpdate

/-!
# What calls answer

What a call of an update answers is told by its declaration and by the report of
its unit alone.  The modes that a declaration may have leave no outcome that the
declared shape cannot be taken from: a call that was bound fails only when its
unit fails, and an empty batch does not even ask the unit.
-/

namespace Value

/-- A row with a first column. -/
def HasColumn (row : Value) : Prop := ∃ v others, row.sequence? = some (v :: others)

theorem items?_of_sequence? {row : Value} {items : List Value} (h : row.sequence? = some items) :
    row.items? = some items := by
  unfold sequence? at h
  split at h <;> cases h <;> rfl

end Value

namespace Outcome

theorem firstItem_of_sequence? {row v : Value} {others : List Value}
    (h : row.sequence? = some (v :: others)) : firstItem row = .ok v := by
  unfold Value.sequence? at h
  split at h <;> cases h <;> rfl

theorem toTuple_of_sequence? {row : Value} {items : List Value}
    (h : row.sequence? = some items) : toTuple row = .ok (.tuple items) := by
  rw [toTuple, Value.toItems, Value.items?_of_sequence? h]
  rfl

theorem eachRow_of_forall₂ {f : Value → Except Failure Value} {rows vs : List Value}
    (h : List.Forall₂ (fun row v => f row = .ok v) rows vs) : eachRow f rows = .ok vs := by
  induction h with
  | nil => rfl
  | cons hrow _ ih =>
    rw [eachRow, hrow, ih]
    rfl

end Outcome

namespace Spec

/-- What a call of an update answers when its unit reports something. -/
inductive Answers (spec : Spec) (r : UnitResult) : Value → Prop
  | nothing (hreturns : spec.returns = .void) : Answers spec r .none
  | count (hreturns : spec.returns = .count) : Answers spec r (.int r.rowsAffected)
  | counts (hreturns : spec.returns = .counts) : Answers spec r (.list (r.perRow.map .int))
  /-- There is no key row. -/
  | noKey (hreturns : spec.returns = .key) (hkeys : r.keys = []) : Answers spec r .none
  /-- The first column of the first key row. -/
  | key {row v : Value} {rows others : List Value} (hreturns : spec.returns = .key)
      (hkeys : r.keys = row :: rows) (hrow : row.sequence? = some (v :: others)) : Answers spec r v
  /-- The first columns of the key rows, in order. -/
  | firstColumns {vs : List Value} (hreturns : spec.returns = .keys)
      (hmode : spec.keys = .firstColumn)
      (hrows : List.Forall₂ (fun row v => ∃ others, row.sequence? = some (v :: others)) r.keys vs) :
      Answers spec r (.list vs)
  /-- The key rows as tuples, in order. -/
  | rows {rows : List (List Value)} (hreturns : spec.returns = .keys)
      (hmode : spec.keys ≠ .firstColumn)
      (hrows : List.Forall₂ (fun row items => row.sequence? = some items) r.keys rows) :
      Answers spec r (.list (rows.map .tuple))

/-- Every row has an item that is related to it if every member of the rows has one. -/
theorem exists_forall₂ {α β : Type} {R : α → β → Prop} {rows : List α}
    (h : ∀ row ∈ rows, ∃ b, R row b) : ∃ bs, List.Forall₂ R rows bs := by
  induction rows with
  | nil => exact ⟨[], .nil⟩
  | cons row rows ih =>
    obtain ⟨b, hb⟩ := h row List.mem_cons_self
    obtain ⟨bs, hbs⟩ := ih fun other hother => h other (List.mem_cons_of_mem row hother)
    exact ⟨b :: bs, .cons hb hbs⟩

/-- There is an answer for every report whose key rows have a first column. -/
theorem exists_answers (spec : Spec) {r : UnitResult} (h : ∀ row ∈ r.keys, row.HasColumn) :
    ∃ v, spec.Answers r v := by
  cases hreturns : spec.returns with
  | void => exact ⟨_, .nothing hreturns⟩
  | count => exact ⟨_, .count hreturns⟩
  | counts => exact ⟨_, .counts hreturns⟩
  | key =>
    cases hkeys : r.keys with
    | nil => exact ⟨_, .noKey hreturns hkeys⟩
    | cons row rows =>
      obtain ⟨v, others, hrow⟩ := h row (hkeys ▸ List.mem_cons_self)
      exact ⟨v, .key hreturns hkeys hrow⟩
  | keys =>
    by_cases hmode : spec.keys = .firstColumn
    · obtain ⟨vs, hrows⟩ := exists_forall₂ h
      exact ⟨_, .firstColumns hreturns hmode hrows⟩
    · have hitems : ∀ row ∈ r.keys, ∃ items, row.sequence? = some items := by
        intro row hrow
        obtain ⟨v, others, hcolumn⟩ := h row hrow
        exact ⟨v :: others, hcolumn⟩
      obtain ⟨rows, hrows⟩ := exists_forall₂ hitems
      exact ⟨_, .rows hreturns hmode hrows⟩

end Spec

namespace Invocation

/-- What is extracted from the outcome that a report gives is the answer for the report. -/
theorem extract_of_answers {spec : Spec} (h : spec.IsConsistent) {r : UnitResult} {v : Value}
    (hanswers : spec.Answers r v) (activity : Activity) :
    ∃ after, (outcomeOf spec r).extract spec.returns spec.keys activity = (.ok v, after) := by
  have hkeys := h.wantsKeys_eq
  cases hanswers with
  | nothing hreturns =>
    rw [outcomeOf, if_pos hreturns, hreturns]
    exact ⟨_, rfl⟩
  | count hreturns =>
    rw [outcomeOf, hkeys, hreturns]
    exact ⟨_, rfl⟩
  | counts hreturns =>
    rw [outcomeOf, hkeys, hreturns]
    exact ⟨_, rfl⟩
  | noKey hreturns hnone =>
    rw [outcomeOf, hkeys, hreturns, hnone]
    exact ⟨_, rfl⟩
  | key hreturns hsome hrow =>
    rw [outcomeOf, hkeys, hreturns, hsome]
    refine ⟨activity, ?_⟩
    show Act.ofExcept (Outcome.firstItem _) activity = _
    rw [Outcome.firstItem_of_sequence? hrow]
    rfl
  | @firstColumns vs hreturns hmode hrows =>
    have heach : Outcome.eachRow Outcome.firstItem r.keys = .ok vs := by
      refine Outcome.eachRow_of_forall₂ (hrows.imp ?_)
      rintro row v ⟨others, hrow⟩
      exact Outcome.firstItem_of_sequence? hrow
    rw [outcomeOf, hkeys, hreturns, hmode]
    refine ⟨activity, ?_⟩
    show Act.ofExcept (Outcome.extractKeys true r.keys) activity = _
    rw [Outcome.extractKeys, if_pos rfl, heach]
    rfl
  | @rows rows hreturns hmode hrows =>
    have heach : Outcome.eachRow Outcome.toTuple r.keys = .ok (rows.map .tuple) := by
      refine Outcome.eachRow_of_forall₂ (List.forall₂_map_right_iff.2 (hrows.imp ?_))
      intro row items hrow
      exact Outcome.toTuple_of_sequence? hrow
    have hfirst : ¬ (spec.keys == .firstColumn) = true := by simpa using hmode
    rw [outcomeOf, hkeys, hreturns]
    refine ⟨activity, ?_⟩
    show Act.ofExcept (Outcome.extractKeys (spec.keys == .firstColumn) r.keys) activity = _
    rw [Outcome.extractKeys, if_neg hfirst, heach]
    rfl

/-! ## Calls -/

section Call

variable {spec : Spec} {convention : AccessorConvention} {u : ExecutionUnit}
  {arguments : List Value} {activity bound ended : Activity} {c : Invocation}

/-- What a call answers is extracted from what its unit reported. -/
theorem call_eq_of_performed {r : UnitResult}
    (hbind : bind spec convention arguments activity = (.ok c, bound))
    (hperform : perform spec u c bound = (.ok r, ended)) :
    call spec convention u arguments activity =
      (outcomeOf spec r).extract spec.returns spec.keys ended := by
  rw [call, Act.bind_run_ok (run_of_performed hbind (isFresh_of_bind hbind).isBound hperform)]

/-- A call whose unit reported something returns the answer for it. -/
theorem call_of_performed (h : spec.IsConsistent) {r : UnitResult} {v : Value}
    (hbind : bind spec convention arguments activity = (.ok c, bound))
    (hperform : perform spec u c bound = (.ok r, ended)) (hanswers : spec.Answers r v) :
    ∃ after, call spec convention u arguments activity = (.ok v, after) := by
  obtain ⟨after, hextract⟩ := extract_of_answers h hanswers ended
  exact ⟨after, by rw [call_eq_of_performed hbind hperform, hextract]⟩

/-- A call whose unit failed fails. -/
theorem call_of_perform_failed {failure : Failure}
    (hbind : bind spec convention arguments activity = (.ok c, bound))
    (hperform : perform spec u c bound = (.error failure, ended)) :
    ∃ escaping after, call spec convention u arguments activity = (.error escaping, after) := by
  obtain ⟨escaping, after, hrun, -⟩ :=
    run_of_perform_failed hbind (isFresh_of_bind hbind).isBound hperform
  exact ⟨escaping, after, by rw [call, Act.bind_run_error hrun]⟩

/-- Only updates that run once for every row are bound for a batch. -/
theorem isBatch_of_bind (hbind : bind spec convention arguments activity = (.ok c, bound))
    (hstate : c.state = .batchBound) : spec.isBatch = true := by
  rcases bind_cases hbind with ⟨-, values, -, rfl⟩ | ⟨hbatch, -⟩
  · cases hstate
  · exact hbatch

/-- What a call of an empty batch answers. -/
inductive EmptyAnswer : ReturnShape → Value → Prop
  | count : EmptyAnswer .count (.int 0)
  | counts : EmptyAnswer .counts (.list [])
  | void : EmptyAnswer .void .none

/-- For a batch, the answer for an empty report is that for an empty batch. -/
theorem emptyAnswer_of_answers (h : spec.IsConsistent) (hbatch : spec.isBatch = true) {v : Value}
    (hanswers : spec.Answers {} v) : EmptyAnswer spec.returns v := by
  have hnokeys : ¬ spec.returns.isKeys = true := by
    intro hkeys
    rw [← h.wantsKeys_eq] at hkeys
    rw [h.single_of_keys hkeys] at hbatch
    cases hbatch
  cases hanswers with
  | nothing hreturns => rw [hreturns]; exact .void
  | count hreturns => rw [hreturns]; exact .count
  | counts hreturns => rw [hreturns]; exact .counts
  | noKey hreturns => exact absurd (by rw [hreturns]; rfl) hnokeys
  | key hreturns => exact absurd (by rw [hreturns]; rfl) hnokeys
  | firstColumns hreturns => exact absurd (by rw [hreturns]; rfl) hnokeys
  | rows hreturns => exact absurd (by rw [hreturns]; rfl) hnokeys

/-- A call of a declared update whose arguments can be bound fails only when an operation of its
unit fails.  When the unit reports something whose key rows have a first column, the call returns
what was declared for the report; for an empty batch the unit is asked for nothing. -/
theorem call_answers_report {request : SpecRequest} {declared : Activity}
    (hbuild : (Spec.build request declared).1 = .ok spec)
    (hbind : bind spec convention arguments activity = (.ok c, bound)) (u : ExecutionUnit) :
    ∃ operations reported ended, perform spec u c bound = (reported, ended) ∧
      Performed u c bound operations reported ended ∧
      (∀ r, reported = .ok r → (∀ row ∈ r.keys, row.HasColumn) →
        ∃ v after, call spec convention u arguments activity = (.ok v, after) ∧
          spec.Answers r v) ∧
      (∀ failure, reported = .error failure →
        ∃ escaping after, call spec convention u arguments activity = (.error escaping, after)) ∧
      (c.state = .batchBound → c.parameterSets = [] →
        operations = [] ∧ ∃ v after,
          call spec convention u arguments activity = (.ok v, after) ∧
            EmptyAnswer spec.returns v) := by
  have hconsistent := Spec.isConsistent_of_build hbuild
  by_cases hempty : c.state = .batchBound ∧ c.parameterSets = []
  · obtain ⟨hstate, hsets⟩ := hempty
    obtain ⟨ended, hperform, hevents⟩ := exists_perform_empty spec u hstate hsets bound
    have hanswer : ∃ v after, call spec convention u arguments activity = (.ok v, after) ∧
        spec.Answers {} v := by
      obtain ⟨v, hanswers⟩ := spec.exists_answers (r := {}) fun _ hrow => nomatch hrow
      obtain ⟨after, hcall⟩ := call_of_performed hconsistent hbind hperform hanswers
      exact ⟨v, after, hcall, hanswers⟩
    refine ⟨[], _, ended, hperform, .nothing hstate hsets hevents, ?_,
      fun _ hfailure => (nomatch hfailure), ?_⟩
    · rintro r hr -
      cases hr
      exact hanswer
    · intro _ _
      obtain ⟨v, after, hcall, hanswers⟩ := hanswer
      exact ⟨rfl, v, after, hcall,
        emptyAnswer_of_answers hconsistent (isBatch_of_bind hbind hstate) hanswers⟩
  · rcases hperform : perform spec u c bound with ⟨reported, ended⟩
    obtain ⟨operations, hperformed⟩ := exists_performed (isFresh_of_bind hbind) hperform
    refine ⟨operations, reported, ended, rfl, hperformed, ?_, ?_,
      fun hstate hsets => absurd ⟨hstate, hsets⟩ hempty⟩
    · rintro r rfl hrows
      obtain ⟨v, hanswers⟩ := spec.exists_answers hrows
      obtain ⟨after, hcall⟩ := call_of_performed hconsistent hbind hperform hanswers
      exact ⟨v, after, hcall, hanswers⟩
    · rintro failure rfl
      exact call_of_perform_failed hbind hperform

/-- Two key rows are answered as tuples, although the unit reports one of them as a list. -/
theorem call_answers_report_key_rows :
    let request : SpecRequest :=
      { sql := .text "INSERT INTO t VALUES (?1)"
        keys := .text KeyRequest.driverDefined.word, returns := .text ReturnShape.keys.word }
    let spec : Spec :=
      { template := { source := "INSERT INTO t VALUES (?1)", segments :=
          [.literal "INSERT INTO t VALUES (", .placeholder { index := 1 }, .literal ")"] }
        keys := .driverDefined, returns := .keys }
    let rows : List Value := [.tuple [.int 5, .text "a"], .list [.int 6]]
    (Spec.build request {}).1 = .ok spec ∧ (∀ row ∈ rows, row.HasColumn) ∧
      (∃ c bound, bind spec {} [.int 7] {} = (.ok c, bound)) ∧
      ∃ after, call spec {} (Recording.silent { keys := rows }) [.int 7] {} =
        (.ok (.list [.tuple [.int 5, .text "a"], .tuple [.int 6]]), after) := by
  intro request spec rows
  obtain ⟨framed, hframe⟩ : ∃ framed, Spec.frame request {} = (.ok spec, framed) :=
    ⟨_, by with_unfolding_all rfl⟩
  have hbuild : (Spec.build request {}).1 = .ok spec := Spec.build_of_frame rfl rfl hframe rfl
  have hrows : ∀ row ∈ rows, row.HasColumn := by
    intro row hrow
    have hcases : row = .tuple [.int 5, .text "a"] ∨ row = .list [.int 6] := by
      simpa [rows] using hrow
    rcases hcases with rfl | rfl
    · exact ⟨_, _, rfl⟩
    · exact ⟨_, _, rfl⟩
  obtain ⟨c, bound, hbind⟩ : ∃ c bound, bind spec {} [.int 7] {} = (.ok c, bound) := ⟨_, _, rfl⟩
  obtain ⟨operations, reported, ended, hperform, -, hanswer, -⟩ :=
    call_answers_report hbuild hbind (Recording.silent { keys := rows })
  have hreported : reported = .ok { rowsAffected := 1, perRow := [1], keys := rows } := by
    cases hbind
    exact (congrArg Prod.fst hperform).symm
  obtain ⟨v, after, hcall, hanswers⟩ := hanswer _ hreported hrows
  refine ⟨hbuild, hrows, ⟨c, bound, hbind⟩, after, ?_⟩
  cases hanswers with
  | rows _ _ hrows =>
    obtain ⟨first, _, hfirst, hrest, rfl⟩ := List.forall₂_cons_left_iff.1 hrows
    obtain ⟨second, _, hsecond, hnone, rfl⟩ := List.forall₂_cons_left_iff.1 hrest
    cases hfirst
    cases hsecond
    cases hnone
    exact hcall
  | nothing hreturns => cases hreturns
  | count hreturns => cases hreturns
  | counts hreturns => cases hreturns
  | noKey hreturns => cases hreturns
  | key hreturns => cases hreturns
  | firstColumns _ hmode => cases hmode

end Call

end Invocation
end BoundUpdate
