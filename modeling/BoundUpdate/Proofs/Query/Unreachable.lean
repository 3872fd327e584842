import BoundUpdate.Proofs.Invocation.Answers
import BoundUpdate.Proofs.Invocation.BatchShape
import BoundUpdate.Proofs.Query.Arguments
import BoundUpdate.Proofs.Query.Turns
import Mathlib.Algebra.Order.Group.Int

namespace BoundUpdate

/-!
# Arguments that no call gives

The placeholder with the greatest index refers to an argument that a method with
fewer parameters does not have.  Values are bound for all placeholders or for
none, so no row can be bound, and a unit is not asked for anything before that.
A call can only do without any row: a batch of none is bound and answered.
-/

/-! ## The greatest index -/

theorem lt_foldl_max {n a : Int} {indexes : List Int} (h : n < indexes.foldl max a) :
    n < a ∨ ∃ i ∈ indexes, n < i := by
  induction indexes generalizing a with
  | nil => exact .inl h
  | cons i rest ih =>
    rcases ih h with hmax | ⟨j, hj, hn⟩
    · rcases lt_max_iff.1 hmax with ha | hi
      · exact .inl ha
      · exact .inr ⟨i, List.mem_cons_self, hi⟩
    · exact .inr ⟨j, List.mem_cons_of_mem _ hj, hn⟩

/-- Some placeholder has the greatest index. -/
theorem Template.exists_lt_index {t : Template} {n : Nat} (h : (n : Int) < t.maxIndex) :
    ∃ p ∈ t.placeholders, (n : Int) < p.index := by
  rcases lt_foldl_max h with hnone | ⟨i, hi, hn⟩
  · omega
  · obtain ⟨p, hp, rfl⟩ := List.mem_map.1 hi
    exact ⟨p, hp, hn⟩

theorem Lookup.argument?_of_beyond {p : Placeholder} {arguments : List Value}
    (h : (arguments.length : Int) < p.index) : argument? p arguments = none := by
  have hplace : arguments.length ≤ (p.index - 1).toNat := by omega
  rw [argument?, if_neg (by omega), List.getElem?_eq_none hplace]

/-! ## Rows that are too short -/

namespace Spec

variable {spec : Spec} {convention : AccessorConvention}

/-- Where values are bound for some slots, every one of the slots denotes something. -/
theorem exists_denoted_of_bindFrom {denoted : Placeholder → Act Value} {position : Nat}
    {slots : List Placeholder} {activity after : Activity} {values : List Value}
    (h : bindFrom spec denoted position slots activity = (.ok values, after)) :
    ∀ p ∈ slots, ∃ v before between, denoted p before = (.ok v, between) := by
  induction slots generalizing position activity after values with
  | nil => exact fun p hp => nomatch hp
  | cons p rest ih =>
    obtain ⟨v, _, hv, h⟩ := Act.exists_of_bind_run_ok h
    obtain ⟨bound, _, -, h⟩ := Act.exists_of_bind_run_ok h
    obtain ⟨others, _, hothers, -⟩ := Act.exists_of_bind_run_ok h
    exact List.forall_mem_cons.2 ⟨⟨v, _, _, hv⟩, ih hothers⟩

/-- Too few arguments cannot be bound. -/
theorem bindAll_ne_ok {arguments : List Value}
    (h : (arguments.length : Int) < spec.template.maxIndex) {activity after : Activity}
    {values : List Value} : spec.bindAll convention arguments activity ≠ (.ok values, after) := by
  intro hbind
  obtain ⟨p, hp, hindex⟩ := Template.exists_lt_index h
  obtain ⟨v, _, _, hv⟩ := exists_denoted_of_bindFrom hbind p hp
  rw [Lookup.resolve, Lookup.argument?_of_beyond hindex] at hv
  cases hv

end Spec

namespace Batch

theorem length_rowAt_le (arguments : List Value) (i : Nat) :
    (rowAt arguments i).length ≤ arguments.length := by
  refine (List.length_filterMap_le _ _).trans (Nat.le_of_eq ?_)
  rw [itemsOf, List.length_map]

theorem length_of_readRow {items : List (Probe Value)} {row : List Value}
    (h : MayGive (readRow items) row) : row.length = items.length := by
  induction items generalizing row with
  | nil => rw [h.eq_of_pure]; rfl
  | cons item rest ih =>
    obtain ⟨v, -, h⟩ := h.cases_of_bind
    obtain ⟨others, hothers, h⟩ := h.cases_of_bind
    rw [h.eq_of_pure, List.length_cons, List.length_cons, ih hothers]

end Batch

namespace Invocation

variable {spec : Spec} {convention : AccessorConvention} {arguments : List Value}

/-- Rows of which each is too short are bound only if there are none. -/
theorem eq_nil_of_bindRows {rows : List (List (Probe Value))} {sets : List (List Value)}
    (h : ∀ items ∈ rows, (items.length : Int) < spec.template.maxIndex)
    {activity after : Activity}
    (hbind : bindRows spec convention rows activity = (.ok sets, after)) : rows = [] := by
  cases rows with
  | nil => rfl
  | cons items rest =>
    obtain ⟨values, _, hvalues, -⟩ := Act.exists_of_bind_run_ok hbind
    obtain ⟨row, _, hrow, hvalues⟩ := Act.exists_of_bind_run_ok hvalues
    have hlength := Batch.length_of_readRow (MayGive.of_probe ⟨_, _, hrow⟩)
    exact absurd hvalues (Spec.bindAll_ne_ok (hlength ▸ h items List.mem_cons_self))

/-- Arguments without rows: they are for a batch, and all of them are empty lists or tuples. -/
def IsRowless (spec : Spec) (arguments : List Value) : Prop :=
  spec.isBatch = true ∧ Batch.HasLength arguments 0

/-- Too few arguments are bound only if they have no rows. -/
theorem isRowless_of_bind (h : (arguments.length : Int) < spec.template.maxIndex)
    {activity bound : Activity} {c : Invocation}
    (hbind : bind spec convention arguments activity = (.ok c, bound)) :
    IsRowless spec arguments ∧ c.state = .batchBound ∧ c.parameterSets = [] := by
  rcases bind_cases hbind with
    ⟨-, values, hvalues, -⟩ | ⟨hbatch, n, columns, between, sets, hcolumns, hsets, rfl⟩
  · exact absurd hvalues (Spec.bindAll_ne_ok h)
  · obtain ⟨hlength, rfl⟩ := Batch.hasLength_of_columns (MayGive.of_probe ⟨_, _, hcolumns⟩)
    -- a row has an item of each argument at most
    have hshort : ∀ items ∈ Batch.rows n (Batch.itemsOf arguments),
        (items.length : Int) < spec.template.maxIndex := by
      rw [Batch.rows_itemsOf]
      intro items hitems
      obtain ⟨i, -, rfl⟩ := List.mem_map.1 hitems
      have hwidth := Batch.length_rowAt_le arguments i
      omega
    have hnone := eq_nil_of_bindRows hshort hsets
    have hrows := congrArg List.length hnone
    rw [Batch.rows_length, List.length_nil] at hrows
    subst hrows
    cases hsets
    exact ⟨⟨hbatch, hlength⟩, rfl, rfl⟩

/-- Arguments without rows are bound. -/
theorem exists_bind_of_isRowless (h : IsRowless spec arguments) (convention : AccessorConvention)
    (activity : Activity) :
    ∃ c bound, bind spec convention arguments activity = (.ok c, bound) := by
  obtain ⟨hbatch, hlength⟩ := h
  have hcolumns : Act.probe (Batch.columns arguments) activity = (.ok (0, _), _) :=
    Prod.ext (Batch.alwaysGives_columns hlength activity.counts) rfl
  rw [bind, if_pos hbatch, Act.bind_run_ok hcolumns]
  exact ⟨_, _, rfl⟩

/-- How a call with too few arguments ends: it fails, unless the arguments have no rows. -/
inductive Unreached (spec : Spec) (arguments : List Value) : Except Failure Value → Prop
  | refused (failure : Failure) : ¬ IsRowless spec arguments →
      Unreached spec arguments (.error failure)
  | rowless {v : Value} : IsRowless spec arguments → EmptyAnswer spec.returns v →
      Unreached spec arguments (.ok v)

/-- A call with too few arguments is the same for every unit, and nothing becomes observable. -/
theorem exists_call_of_too_few (hconsistent : spec.IsConsistent)
    (h : (arguments.length : Int) < spec.template.maxIndex) (convention : AccessorConvention)
    (activity : Activity) :
    ∃ answer after, (∀ u, call spec convention u arguments activity = (answer, after)) ∧
      after.events = activity.events ∧ Unreached spec arguments answer := by
  rcases hbind : bind spec convention arguments activity with ⟨failure | c, bound⟩
  · refine ⟨.error failure, bound, fun u => ?_, ?_, .refused failure fun hrowless => ?_⟩
    · rw [call, Act.bind_run_error (run_of_bind_failed hbind)]
    · exact (keepsEvents_bind spec convention arguments).events_eq hbind
    · obtain ⟨c, _, hbound⟩ := exists_bind_of_isRowless hrowless convention activity
      rw [hbind] at hbound
      cases hbound
  · obtain ⟨hrowless, hstate, hsets⟩ := isRowless_of_bind h hbind
    let ended : Activity := { bound with
      journal := bound.journal ++
        [⟨.info, .invocation, spec.name ++ ": empty batch, nothing executed"⟩] }
    have hempty : c.parameterSets.isEmpty = true := by rw [hsets]; rfl
    have hperform : ∀ u, perform spec u c bound = (.ok {}, ended) := by
      intro u
      rw [perform, if_pos hstate, if_pos hempty]
      rfl
    obtain ⟨v, hanswers⟩ := spec.exists_answers (r := {}) fun _ hkey => absurd hkey List.not_mem_nil
    obtain ⟨after, hextract⟩ := extract_of_answers hconsistent hanswers ended
    refine ⟨.ok v, after, fun u => ?_, ?_, .rowless hrowless ?_⟩
    · rw [call_eq_of_performed hbind (hperform u), hextract]
    · have hbound := (keepsEvents_bind spec convention arguments).events_eq hbind
      rw [(keepsEvents_extract _ _ _).events_eq hextract]
      exact hbound
    · exact emptyAnswer_of_answers hconsistent hrowless.1 hanswers

end Invocation

/-! ## Calls of a method -/

namespace Signature

/-- A parameter that takes one value contributes at most one. -/
theorem length_flatMap_contribution_le {s : Signature} (h : ∀ p ∈ s, p.isVariadic = false)
    (bound : Named) : (s.flatMap fun p => p.contribution bound).length ≤ s.length := by
  induction s with
  | nil => exact Nat.le_refl 0
  | cons p rest ih =>
    obtain ⟨hp, hrest⟩ := List.forall_mem_cons.1 h
    have hone : (p.contribution bound).length ≤ 1 := by
      rw [Parameter.contribution_of_single hp]
      cases (bound.lookup p.name).or p.default? <;> simp
    rw [List.flatMap_cons, List.length_append, List.length_cons]
    have hothers := ih hrest
    omega

/-- There are no more arguments than the arity tells. -/
theorem length_argumentsOf_le {s : Signature} {n : Nat} (harity : s.arity = some n)
    {receiver : Value} {values arguments : List Value} {named : Named}
    (h : s.argumentsOf receiver values named = .ok arguments) : arguments.length ≤ n := by
  unfold arity at harity
  split at harity
  next => cases harity
  next hsingle =>
    cases harity
    have hsingles : ∀ p ∈ s.operands, p.isVariadic = false := by
      simpa using hsingle
    obtain ⟨bound, -, rfl⟩ := except_map_ok h
    exact length_flatMap_contribution_le hsingles bound

end Signature

/-! ## Declaring -/

namespace Spec

/-- The note that a template refers to an argument that the method does not have. -/
def unreachableNote (spec : Spec) (arity : Nat) : Record where
  level := .warning
  origin := .specification
  message := spec.name ++ ": template references argument " ++
    Number.intText spec.template.maxIndex ++ " but the method takes " ++
    (Value.int arity).plain ++ "; every call will fail"

theorem noted_of_build {request : SpecRequest} {spec : Spec} {declared after : Activity}
    {n : Nat} (h : build request declared = (.ok spec, after)) (harity : request.arity = .int n)
    (hindex : (n : Int) < spec.template.maxIndex) :
    spec.unreachableNote n ∈ after.journal := by
  rw [build_eq] at h
  obtain ⟨framed, _, -, h⟩ := Act.exists_of_bind_run_ok h
  obtain ⟨converters, _, -, h⟩ := Act.exists_of_bind_run_ok h
  obtain ⟨_, _, -, h⟩ := Act.exists_of_bind_run_ok h
  obtain ⟨_, reached, hnote, h⟩ := Act.exists_of_bind_run_ok h
  cases h
  have hbelow : (Value.int n).isBelow framed.template.maxIndex = .ok true := by
    rw [Value.isBelow_int, decide_eq_true hindex]
  rw [harity] at hnote
  unfold noteUnreachable at hnote
  dsimp only at hnote
  rw [hbelow, Act.bind_run_ok (Act.ofExcept_run _ _), if_pos rfl, Act.note_run] at hnote
  cases hnote
  exact List.mem_append_right _ (List.mem_singleton.2 rfl)

end Spec

namespace Query

variable {q : Query} {before : Activity}

/-- How a query runs an update: it is refused before its unit is asked for anything, or its unit
runs the update. -/
inductive Ran (spec : Spec) (arguments : List Value) (before : Activity) :
    Except Failure Value → Activity → Prop
  | refused {failure : Failure} {after : Activity} : after.events = before.events →
      Ran spec arguments before (.error failure) after
  | invoked {u : ExecutionUnit} {convention : AccessorConvention} {ready after : Activity}
      {answer : Except Failure Value} : ready.events = before.events →
      Invocation.call spec convention u arguments ready = (answer, after) →
      Ran spec arguments before answer after

theorem Obtains.events_eq {deeds : List Deed} {q' : Query}
    {outcome : Except Failure ExecutionUnit} {after : Activity}
    (h : Obtains q before deeds q' outcome after) : after.events = before.events := by
  cases h with
  | held _ => rfl
  | @built c _ _ _ _ hbuild => exact c.keepsEvents_unit.events_eq hbuild
  | @failed c _ _ _ hbuild => exact c.keepsEvents_unit.events_eq hbuild

theorem Learns.events_eq {deeds : List Deed} {q' : Query}
    {outcome : Except Failure AccessorConvention} {after : Activity}
    (h : Learns q before deeds q' outcome after) : after.events = before.events := by
  cases h with
  | held _ => rfl
  | told _ hcurrent => exact Settings.keepsEvents_current.events_eq hcurrent
  | failed hcurrent => exact Settings.keepsEvents_current.events_eq hcurrent

theorem exists_ran (q : Query) (spec : Spec) (arguments : List Value) (before : Activity) :
    ∃ q' answer after, q.run spec arguments before = (.ok (q', answer), after) ∧
      Ran spec arguments before answer after := by
  by_cases hwork : q.closed = false ∧ q.CanWork
  · obtain ⟨_, q₁, obtained, between, hunit, hobtains⟩ := exists_obtains hwork.1 hwork.2 before
    have hbetween := hobtains.events_eq
    cases obtained with
    | error failure => exact ⟨_, _, _, run_of_unit_failed hunit, .refused hbetween⟩
    | ok u =>
      obtain ⟨_, q₂, told, ready, hconvention, hlearns⟩ := exists_learns q₁ between
      have hready := hlearns.events_eq.trans hbetween
      cases told with
      | error failure =>
        exact ⟨_, _, _, run_of_convention_failed hunit hconvention, .refused hready⟩
      | ok convention =>
        rcases hcall : Invocation.call spec convention u arguments ready with ⟨answer, after⟩
        exact ⟨_, _, _, run_of_ready hunit hconvention hcall, .invoked hready hcall⟩
  · -- the query is closed, or it has neither a unit nor a client
    obtain ⟨failure, hunit⟩ :
        ∃ failure, q.unit before = (.ok (q, .error failure), before) := by
      unfold unit
      cases hclosed : q.closed with
      | true => exact ⟨_, rfl⟩
      | false =>
        have hnone : q.unit? = none ∧ q.client = none := by
          simpa [CanWork, hclosed] using hwork
        rw [hnone.1, hnone.2]
        exact ⟨_, rfl⟩
    exact ⟨_, _, _, run_of_unit_failed hunit, .refused rfl⟩

theorem length_fitted_le {m : DeclaredMethod} {n : Nat} (harity : m.signature.arity = some n)
    {typeName : String} {values arguments : List Value} {named : Named}
    (h : fitted typeName m values named = .ok arguments) : arguments.length ≤ n := by
  unfold fitted at h
  split at h
  · cases h
  · exact Signature.length_argumentsOf_le harity h

/-- A declared method whose template refers to an argument beyond its arity is noted, and no call of
it reaches a unit: nothing becomes observable, and what a call does is the same for every unit.  The
call fails, unless it gives a batch without rows, which is answered as an empty one. -/
theorem unreachable_argument {declaration : MethodDeclaration} {before declared : Activity}
    {m : DeclaredMethod} (hdeclare : declaration.declare before = (.ok m, declared)) {n : Nat}
    (harity : declaration.signature.arity = some n)
    (hindex : (n : Int) < m.spec.template.maxIndex) :
    m.spec.unreachableNote n ∈ declared.journal ∧
    (∀ typeName values named arguments, fitted typeName m values named = .ok arguments →
      ∀ convention activity, ∃ answer after,
        (∀ u, Invocation.call m.spec convention u arguments activity = (answer, after)) ∧
          after.events = activity.events ∧ Invocation.Unreached m.spec arguments answer) ∧
    ∀ (q : Query) values named activity, ∃ q' answer after,
      q.call m values named activity = (.ok (q', answer), after) ∧
        after.events = activity.events ∧
        ∀ v, answer = .ok v → ∃ arguments, fitted q.typeName m values named = .ok arguments ∧
          Invocation.IsRowless m.spec arguments ∧ Invocation.EmptyAnswer m.spec.returns v := by
  obtain ⟨hsignature, request, start, built, hbuild, hrequest, hjournal⟩ :=
    MethodDeclaration.exists_build_of_declare hdeclare
  have hconsistent := Spec.isConsistent_of_build (congrArg Prod.fst hbuild)
  rw [harity] at hrequest
  rw [← hsignature] at harity
  have hcalls : ∀ typeName values named arguments,
      fitted typeName m values named = .ok arguments → ∀ convention activity, ∃ answer after,
        (∀ u, Invocation.call m.spec convention u arguments activity = (answer, after)) ∧
          after.events = activity.events ∧ Invocation.Unreached m.spec arguments answer := by
    intro typeName values named arguments hfitted convention activity
    -- a call passes no more arguments than the arity tells, so every row is too short
    have hlength := length_fitted_le harity hfitted
    exact Invocation.exists_call_of_too_few hconsistent (by omega) convention activity
  refine ⟨hjournal (Spec.noted_of_build hbuild hrequest hindex), hcalls, ?_⟩
  intro q values named activity
  rw [call_eq]
  cases hfitted : fitted q.typeName m values named with
  | error failure => exact ⟨q, .error failure, activity, rfl, rfl, nofun⟩
  | ok arguments =>
    obtain ⟨q', answer, after, hrun, hran⟩ := exists_ran q m.spec arguments activity
    refine ⟨q', answer, after, hrun, ?_⟩
    cases hran with
    | refused hevents => exact ⟨hevents, nofun⟩
    | @invoked u convention ready _ _ hready hcall =>
      obtain ⟨answer', after', hsame, hevents, hunreached⟩ :=
        hcalls q.typeName values named arguments hfitted convention ready
      rw [hsame u] at hcall
      cases hcall
      refine ⟨hevents.trans hready, fun v hv => ?_⟩
      cases hunreached with
      | refused failure _ => cases hv
      | rowless hrowless hanswer =>
        cases hv
        exact ⟨arguments, rfl, hrowless, hanswer⟩

/-- A method of one parameter refers to a second argument behind one that is there: the method is
declared with a note, and every query refuses a call of it. -/
theorem unreachable_argument_behind_reachable :
    let declaration : MethodDeclaration :=
      { name := "put", qualifiedName := "Put.put"
        signature := [{ name := "self" }, { name := "a" }]
        sql := .text "SET a = ?1, b = ?2" }
    ∃ m declared, declaration.declare {} = (.ok m, declared) ∧
      declaration.signature.arity = some 1 ∧ (1 : Int) < m.spec.template.maxIndex ∧
      m.spec.unreachableNote 1 ∈ declared.journal ∧
      ∀ q : Query, ∃ q' failure after,
        q.call m [.int 7] [] {} = (.ok (q', .error failure), after) ∧ after.events = [] := by
  intro declaration
  obtain ⟨m, declared, hdeclare, hm⟩ := Act.exists_ok_of_any
    (p := fun m => !m.spec.isBatch && decide ((1 : Int) < m.spec.template.maxIndex))
    (show ((declaration.declare {}).1.toOption.any _) = true by decide +kernel)
  obtain ⟨hsingle, hindex⟩ := Bool.and_eq_true_iff.1 hm
  have harity : declaration.signature.arity = some 1 := rfl
  have hindex : ((1 : Nat) : Int) < m.spec.template.maxIndex := of_decide_eq_true hindex
  obtain ⟨hnote, -, hcalls⟩ := unreachable_argument hdeclare harity hindex
  refine ⟨m, declared, hdeclare, harity, hindex, hnote, fun q => ?_⟩
  obtain ⟨q', answer, after, hcall, hevents, hanswer⟩ := hcalls q [.int 7] [] {}
  cases answer with
  | error failure => exact ⟨q', failure, after, hcall, hevents⟩
  | ok v =>
    obtain ⟨arguments, -, ⟨hbatch, -⟩, -⟩ := hanswer v rfl
    rw [hbatch] at hsingle
    cases hsingle

/-- A batch without rows is answered although the template refers to an argument that the method
does not have. -/
theorem unreachable_argument_without_rows :
    let declaration : MethodDeclaration :=
      { name := "put", qualifiedName := "Put.put"
        signature := [{ name := "self" }, { name := "a" }]
        sql := .text "SET a = ?2", batch := .bool true
        returns := .text ReturnShape.count.word }
    let q : Query :=
      { typeName := "Put", unit? := some (Recording.silent {}), convention? := some {} }
    ∃ m, (declaration.declare {}).1 = .ok m ∧ declaration.signature.arity = some 1 ∧
      (1 : Int) < m.spec.template.maxIndex ∧
      (q.call m [.list []] [] {}).1.map Prod.snd = .ok (.ok (.int 0)) := by
  intro declaration q
  obtain ⟨m, declared, hdeclare, hm⟩ := Act.exists_ok_of_any
    (p := fun m => m.spec.isBatch && m.spec.returns == .count &&
      decide ((1 : Int) < m.spec.template.maxIndex))
    (show ((declaration.declare {}).1.toOption.any _) = true by decide +kernel)
  obtain ⟨hm, hindex⟩ := Bool.and_eq_true_iff.1 hm
  obtain ⟨hbatch, hreturns⟩ := Bool.and_eq_true_iff.1 hm
  have hindex : (1 : Int) < m.spec.template.maxIndex := of_decide_eq_true hindex
  obtain ⟨hsignature, _, _, _, hbuild, -⟩ := MethodDeclaration.exists_build_of_declare hdeclare
  have hconsistent := Spec.isConsistent_of_build (congrArg Prod.fst hbuild)
  have hlength : Batch.HasLength [.list []] 0 := Batch.hasLength_of_sequences
    (List.cons_ne_nil _ _) (List.forall_mem_singleton.2 ⟨[], rfl, rfl⟩)
  have hfew : ([Value.list []].length : Int) < m.spec.template.maxIndex := hindex
  obtain ⟨answer, after, hcall, -, hunreached⟩ :=
    Invocation.exists_call_of_too_few hconsistent hfew {} {}
  have hanswer : answer = .ok (.int 0) := by
    cases hunreached with
    | refused _ hrows => exact absurd ⟨hbatch, hlength⟩ hrows
    | rowless _ hempty =>
      rw [eq_of_beq hreturns] at hempty
      cases hempty
      rfl
  have hfitted : fitted q.typeName m [.list []] [] = .ok [.list []] := by
    rw [fitted, hsignature]
    rfl
  have hrun := run_of_ready (q := q) rfl rfl (hcall _)
  refine ⟨m, congrArg Prod.fst hdeclare, rfl, hindex, ?_⟩
  rw [call_eq, hfitted]
  dsimp only
  rw [hrun, hanswer]
  rfl

end Query
end BoundUpdate
