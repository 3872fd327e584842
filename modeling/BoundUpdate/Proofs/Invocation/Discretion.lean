import BoundUpdate.Proofs.Backend.Discretion
import BoundUpdate.Proofs.Invocation.Binding
import BoundUpdate.Proofs.Invocation.BatchShape
import Mathlib.Data.List.Forall2

namespace BoundUpdate

/-!
# What is written down about a call

Two calls of one update, with arguments that can both be bound and, in a batch,
with equally many rows, differ in the values that they bind.  On a discreet unit
nothing of this can be told from the journal: both calls write the same records,
and they end alike.
-/

open Act

namespace Invocation

/-- Two bound invocations have as many lists of values, with as many values in each. -/
structure SameShape (c c' : Invocation) : Prop where
  state : c.state = c'.state
  sets : List.Forall₂ (fun values values' => values.length = values'.length)
    c.parameterSets c'.parameterSets

theorem SameShape.isEmpty {c c' : Invocation} (h : c.SameShape c') :
    c.parameterSets.isEmpty = c'.parameterSets.isEmpty := by
  have hlength := h.sets.length_eq
  cases hsets : c.parameterSets <;> cases hsets' : c'.parameterSets <;> simp_all

section Parallel

variable {u : ExecutionUnit} {spec : Spec}

theorem parallel_bindParameters (hu : u.IsDiscreet) {s t : Statement} (h : s.SameFrame t)
    (position : Nat) {values values' : List Value} (hlength : values.length = values'.length) :
    (bindParameters u s position values).Parallel Statement.SameFrame
      (bindParameters u t position values') := by
  induction values generalizing s t position values' with
  | nil =>
    obtain rfl : values' = [] := List.length_eq_zero_iff.1 hlength.symm
    exact parallel_pure h
  | cons v rest ih =>
    cases values' with
    | nil => cases hlength
    | cons w rest' =>
      refine (hu.bind h position v w).bind fun hbound => ?_
      exact ih hbound (position + 1) (Nat.succ.inj hlength)

theorem parallel_perform (hu : u.IsDiscreet) (spec : Spec) {c c' : Invocation}
    (h : c.SameShape c') : (perform spec u c).Parallel Eq (perform spec u c') := by
  have hsets := h.sets
  unfold perform
  rw [h.state, h.isEmpty]
  split
  · split
    · exact (parallel_note _ _ _).bind_eq fun _ => parallel_pure rfl
    · exact (hu.prepare _ _ _).bind fun hframe => hu.executeBatch hframe hsets.length_eq
  · refine (hu.prepare _ _ _).bind fun hframe => ?_
    generalize c.parameterSets = sets, c'.parameterSets = sets' at hsets
    cases hsets with
    | nil => exact parallel_throw _
    | cons hvalues _ =>
      exact (parallel_bindParameters hu hframe 1 hvalues).bind fun hbound =>
        hu.executeSingle hbound

theorem parallel_escalate (spec : Spec) (failure : Failure) :
    (escalate spec failure).Parallel Eq (escalate spec failure) := by
  unfold escalate
  split
  · exact parallel_pure rfl
  · exact (parallel_note _ _ _).bind_eq fun _ => parallel_pure rfl

theorem parallel_execute (hu : u.IsDiscreet) (spec : Spec) {c c' : Invocation}
    (h : c.SameShape c') :
    (execute spec u c).Parallel (fun done done' => done.2 = done'.2) (execute spec u c') := by
  unfold execute
  rw [h.state]
  split
  · refine (parallel_perform hu spec h).attempt.bind fun hreported => ?_
    obtain rfl := hreported.eq
    split
    · exact parallel_pure rfl
    · exact (parallel_escalate spec _).bind_eq fun escaping => parallel_pure rfl
  · exact parallel_pure rfl

theorem parallel_extract (outcome : Outcome) (shape : ReturnShape) (keys : KeyRequest) :
    (outcome.extract shape keys).Parallel Eq (outcome.extract shape keys) := by
  unfold Outcome.extract
  split
  case h_6 found _ =>
    cases found with
    | nil => exact (parallel_note _ _ _).bind_eq fun _ => parallel_pure rfl
    | cons row rest => exact parallel_ofExcept (endAlike_refl _)
  all_goals
    first
    | exact parallel_pure rfl
    | exact parallel_ofExcept (endAlike_refl _)

end Parallel

/-- What a call does with a bound invocation. -/
def complete (spec : Spec) (u : ExecutionUnit) (c : Invocation) : Act Value := do
  let (_, outcome) ← execute spec u c
  let outcome ← Act.ofExcept outcome
  outcome.extract spec.returns spec.keys

theorem call_of_bind {spec : Spec} {convention : AccessorConvention} {u : ExecutionUnit}
    {arguments : List Value} {activity bound : Activity} {c : Invocation}
    (hbind : bind spec convention arguments activity = (.ok c, bound)) :
    call spec convention u arguments activity = complete spec u c bound := by
  have hcall : call spec convention u arguments =
      Invocation.bind spec convention arguments >>= complete spec u := by
    simp only [call, run, bind_assoc]
    rfl
  rw [hcall, Act.bind_run_ok hbind]

theorem parallel_complete {u : ExecutionUnit} (hu : u.IsDiscreet) (spec : Spec)
    {c c' : Invocation} (h : c.SameShape c') :
    (complete spec u c).Parallel Eq (complete spec u c') := by
  refine (parallel_execute hu spec h).bind fun {done done'} hsame => ?_
  obtain ⟨d, outcome⟩ := done
  obtain ⟨d', outcome'⟩ := done'
  obtain rfl : outcome = outcome' := hsame
  exact (parallel_ofExcept (endAlike_refl _)).bind_eq fun outcome => parallel_extract _ _ _

/-- Arguments that can be bound, in a batch those with equally many rows, give invocations of one
shape. -/
theorem sameShape_of_bind {spec : Spec} {convention : AccessorConvention}
    {arguments arguments' : List Value} {activity bound activity' bound' : Activity}
    {c c' : Invocation} (hbind : bind spec convention arguments activity = (.ok c, bound))
    (hbind' : bind spec convention arguments' activity' = (.ok c', bound'))
    (hrows : spec.isBatch = true →
      ∀ n, Batch.HasLength arguments n → Batch.HasLength arguments' n) :
    c.SameShape c' := by
  rcases bind_cases hbind with ⟨hsingle, values, hvalues, rfl⟩ |
    ⟨hbatch, n, columns, _, sets, hcolumns, hsets, rfl⟩
  · rcases bind_cases hbind' with ⟨-, values', hvalues', rfl⟩ | ⟨hbatch, -⟩
    · have hlength := (Spec.length_of_bindAll hvalues).trans
        (Spec.length_of_bindAll hvalues').symm
      exact ⟨rfl, .cons hlength .nil⟩
    · rw [hsingle] at hbatch
      cases hbatch
  · rcases bind_cases hbind' with ⟨hsingle, -⟩ |
      ⟨-, n', columns', _, sets', hcolumns', hsets', rfl⟩
    · rw [hbatch] at hsingle
      cases hsingle
    · have hfound := MayGive.of_probe ⟨_, _, hcolumns⟩
      have hfound' := MayGive.of_probe ⟨_, _, hcolumns'⟩
      have hlength := hrows hbatch n (Batch.hasLength_of_columns hfound).1
      have hsame : n = n' := hlength.unique (Batch.hasLength_of_columns hfound').1
      obtain ⟨hcount, hall⟩ := lengths_of_bindRows hsets
      obtain ⟨hcount', hall'⟩ := lengths_of_bindRows hsets'
      rw [Batch.rows_length] at hcount hcount'
      -- every list of values has one for each placeholder
      refine ⟨rfl, List.forall₂_iff_zip.2 ⟨?_, fun hmem => ?_⟩⟩
      · rw [hcount, hcount', hsame]
      · obtain ⟨hleft, hright⟩ := List.of_mem_zip hmem
        rw [hall _ hleft, hall' _ hright]

/-- Two calls on a discreet unit whose arguments are bound to one shape write the same records. -/
theorem call_alike_of_bind {u : ExecutionUnit} (hu : u.IsDiscreet) {spec : Spec}
    {convention : AccessorConvention} {arguments arguments' : List Value}
    {activity bound activity' bound' : Activity} {c c' : Invocation}
    (hbind : bind spec convention arguments activity = (.ok c, bound))
    (hbind' : bind spec convention arguments' activity' = (.ok c', bound'))
    (hshape : c.SameShape c') (hsame : activity.AnsweredAlike activity') :
    ∃ records outcome after after',
      call spec convention u arguments activity = (outcome, after) ∧
      call spec convention u arguments' activity' = (outcome, after') ∧
      after.journal = activity.journal ++ records ∧
      after'.journal = activity'.journal ++ records := by
  obtain ⟨counts, hbound⟩ := countsOnly_bind _ _ _ hbind
  obtain ⟨counts', hbound'⟩ := countsOnly_bind _ _ _ hbind'
  -- binding writes nothing
  have hbounds : bound.AnsweredAlike bound' := by
    rw [hbound, hbound']
    exact ⟨hsame.sent, hsame.surroundings⟩
  obtain ⟨records, hjournal, hjournal', -, hend⟩ := parallel_complete hu spec hshape hbounds
  rw [call_of_bind hbind, call_of_bind hbind']
  refine ⟨records, (complete spec u c bound).1, (complete spec u c bound).2,
    (complete spec u c' bound').2, rfl, Prod.ext hend.eq.symm rfl, ?_, ?_⟩
  · rw [hjournal, hbound]
  · rw [hjournal', hbound']

/-- A database that was made while bound values were not to be noted keeps them from the journal:
two calls of an update whose arguments can be bound, in a batch those with equally many rows, write
the same records, and fail or answer alike. -/
theorem call_journal_of_bound {client : Client} {d : Database} {opened built loaded : Activity}
    {held : HeldSettings} (hdatabase : client.database opened = (.ok d, built))
    (hcurrent : Settings.current opened = (.ok held, loaded))
    (hoff : held.settings.logsBoundValues.truth = .ok false)
    {spec : Spec} {convention : AccessorConvention} {arguments arguments' : List Value}
    {activity bound activity' bound' : Activity} {c c' : Invocation}
    (hsame : activity.AnsweredAlike activity')
    (hbind : bind spec convention arguments activity = (.ok c, bound))
    (hbind' : bind spec convention arguments' activity' = (.ok c', bound'))
    (hrows : spec.isBatch = true →
      ∀ n, Batch.HasLength arguments n → Batch.HasLength arguments' n) :
    ∃ records outcome after after',
      call spec convention d.unit arguments activity = (outcome, after) ∧
      call spec convention d.unit arguments' activity' = (outcome, after') ∧
      after.journal = activity.journal ++ records ∧
      after'.journal = activity'.journal ++ records := by
  obtain ⟨held', loaded', hcurrent', hlogs⟩ := Database.logsBoundValues_of_database hdatabase
  obtain rfl : held = held' := by
    rw [hcurrent] at hcurrent'
    cases hcurrent'
    rfl
  have hkeeps : d.KeepsValues := by
    rw [Database.KeepsValues, hlogs, hoff]
  exact call_alike_of_bind (Database.isDiscreet_unit hkeeps) hbind hbind'
    (sameShape_of_bind hbind hbind' hrows) hsame

/-- The second of two rows fails on both sides, whatever is bound. -/
theorem call_journal_of_bound_second_fails :
    let script : List Reply := [{}, { failure := some (.raised .runtime "gone") }]
    let client : Client := { type := .text "mysql", connection := some { script } }
    let held : HeldSettings := { serial := 0, settings := {} }
    let spec : Spec :=
      { template := { source := "SET a = ?1", segments :=
          [.literal "SET a = ", .placeholder { index := 1 }] }
        batch := .bool true, returns := .counts }
    let arguments : List Value := [.list [.int 1, .int 2]]
    let arguments' : List Value := [.tuple [.text "x", .none]]
    ∃ d built, client.database { replacement := some held } = (.ok d, built) ∧
      (call spec {} d.unit arguments {}).1 = (call spec {} d.unit arguments' {}).1 ∧
      (call spec {} d.unit arguments {}).2.journal =
        (call spec {} d.unit arguments' {}).2.journal ∧
      (call spec {} d.unit arguments {}).2.journal.length = 4 := by
  intro script client held spec arguments arguments'
  let d : Database :=
    { dialect := .mysql, connection := some { script }, type := .text "mysql", style := "format" }
  have hdatabase : client.database { replacement := some held } =
      (.ok d, { replacement := some held }) := rfl
  have hcurrent : Settings.current { replacement := some held } =
      (.ok held, { replacement := some held }) := rfl
  obtain ⟨c, bound, hbind⟩ := exists_ok_of_isOk
    (show (bind spec {} arguments {}).1.isOk = true by decide +kernel)
  obtain ⟨c', bound', hbind'⟩ := exists_ok_of_isOk
    (show (bind spec {} arguments' {}).1.isOk = true by decide +kernel)
  have hrows : spec.isBatch = true →
      ∀ n, Batch.HasLength arguments n → Batch.HasLength arguments' n := by
    rintro - n hlength
    have htwo : Batch.HasLength arguments 2 := Batch.hasLength_of_sequences
      (List.cons_ne_nil _ _) (List.forall_mem_singleton.2 ⟨_, rfl, rfl⟩)
    obtain rfl := hlength.unique htwo
    exact Batch.hasLength_of_sequences (List.cons_ne_nil _ _)
      (List.forall_mem_singleton.2 ⟨_, rfl, rfl⟩)
  obtain ⟨records, outcome, after, after', hcall, hcall', hjournal, hjournal'⟩ :=
    call_journal_of_bound hdatabase hcurrent rfl ⟨rfl, rfl⟩ hbind hbind' hrows
  have hcount : (call spec {} d.unit arguments {}).2.journal.length = 4 := by decide +kernel
  refine ⟨d, _, hdatabase, ?_, ?_, hcount⟩
  · rw [hcall, hcall']
  · rw [hcall, hcall', hjournal, hjournal']

end Invocation
end BoundUpdate
