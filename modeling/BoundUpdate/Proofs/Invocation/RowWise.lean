import BoundUpdate.Proofs.Invocation.BatchShape
import BoundUpdate.Proofs.Invocation.Binding
import BoundUpdate.Proofs.Invocation.BindingFailure

namespace BoundUpdate

/-!
# Rows of a batch

A batch is bound row by row.  When user code answers the same whenever it is
asked, every row is bound as if it were the arguments of an update that runs
once, and the first row that cannot be bound decides the failure.
-/

open Lookup

/-! ## Steady lookups and conversions -/

/-- What user code answers while arguments are bound does not depend on what ran before: members
that are looked up on the way of a placeholder, converters for the values that placeholders denote,
and what the standard conversion asks of these values. -/
structure Spec.IsSteadyOn (spec : Spec) (convention : AccessorConvention)
    (arguments : List Value) : Prop where
  members : ∀ p ∈ spec.template.placeholders, ∀ v, argument? p arguments = some v →
    ∀ target name, OnTheWay convention v p.path target name →
      Steady (member target name convention)
  converters : ∀ p ∈ spec.template.placeholders, ∀ v,
    MayGive (resolve convention p arguments) v → ∀ c, some c ∈ spec.converters →
      Steady (c.apply v)
  standard : ∀ p ∈ spec.template.placeholders, ∀ v,
    MayGive (resolve convention p arguments) v → Steady (Conversion.standard v)

namespace Lookup

variable {convention : AccessorConvention}

theorem steady_noteUnresolved (described : String) (failure : Failure) :
    Steady (noteUnresolved described failure) := by
  unfold noteUnresolved
  split
  · exact ⟨.ok (), fun _ => rfl⟩
  · exact steady_pure ()

theorem steady_follow {described : String} {v : Value} {path : List String}
    (h : ∀ target name, OnTheWay convention v path target name →
      Steady (member target name convention)) :
    Steady (follow convention described v path) := by
  have : Nonempty Activity := ⟨{}⟩
  induction path generalizing v with
  | nil => exact steady_pure v
  | cons name rest ih =>
    unfold follow
    split
    · exact steady_pure _
    next hv =>
      refine (h v name (.here hv)).probe.attempt_bind (fun next hnext => ?_) fun failure => ?_
      · -- the rest of the path starts from what the member may be
        exact ih fun target wanted hway => h target wanted (.further hv hnext.of_probe hway)
      · exact (steady_noteUnresolved described failure).bind fun _ _ => steady_throw failure

theorem steady_resolve {p : Placeholder} {arguments : List Value}
    (h : ∀ v, argument? p arguments = some v → ∀ target name,
      OnTheWay convention v p.path target name → Steady (member target name convention)) :
    Steady (resolve convention p arguments) := by
  unfold resolve
  split
  next v hv => exact steady_follow (h v hv)
  next => exact steady_throw _

end Lookup

namespace Spec

variable {spec : Spec} {convention : AccessorConvention} {arguments : List Value}

theorem mem_of_converterAt {position : Int} {c : Converter}
    (h : spec.converterAt (.int position) = .ok (some c)) : some c ∈ spec.converters := by
  rw [converterAt_int] at h
  have hfound := Except.ok.inj h
  split at hfound
  · cases hfound
  · exact List.mem_of_getElem? (Option.join_eq_some_iff.1 hfound)

theorem steady_reporting {conversion : Probe Value} (h : Steady conversion)
    (catches : Failure → Bool) (report : Cause → BindingFault) :
    Steady (reporting conversion catches report) := by
  refine h.probe_attempt_bind (fun converted _ => steady_pure converted) fun failure => ?_
  dsimp only
  split
  · exact steady_throw _
  · exact steady_throw _

theorem steady_bindSlot (spec : Spec) {v : Value}
    (h : ∀ c, some c ∈ spec.converters → Steady (c.apply v))
    (hstandard : Steady (Conversion.standard v)) (position : Int) :
    Steady (bindSlot spec v (.int position)) := by
  unfold bindSlot
  rcases hconverter : spec.converterAt (.int position) with failure | converter
  · exact steady_throw failure
  · rw [Probe.ofExcept_ok_bind]
    cases converter with
    | none => exact steady_reporting hstandard _ _
    | some c => exact steady_reporting (h c (mem_of_converterAt hconverter)) _ _

theorem steady_bindFrom {denoted : Placeholder → Act Value} (position : Nat)
    {slots : List Placeholder} (hdenoted : ∀ p ∈ slots, Steady (denoted p))
    (hconverters : ∀ p ∈ slots, ∀ v, MayGive (denoted p) v → ∀ c, some c ∈ spec.converters →
      Steady (c.apply v))
    (hstandard : ∀ p ∈ slots, ∀ v, MayGive (denoted p) v → Steady (Conversion.standard v)) :
    Steady (bindFrom spec denoted position slots) := by
  have : Nonempty Activity := ⟨{}⟩
  induction slots generalizing position with
  | nil => exact steady_pure []
  | cons p rest ih =>
    refine (hdenoted p List.mem_cons_self).bind fun v hv => ?_
    have hslot := spec.steady_bindSlot (hconverters p List.mem_cons_self v hv)
      (hstandard p List.mem_cons_self v hv) position
    refine hslot.probe.bind fun bound _ => ?_
    have hrest := ih (position + 1) (fun q hq => hdenoted q (List.mem_cons_of_mem _ hq))
      (fun q hq => hconverters q (List.mem_cons_of_mem _ hq))
      fun q hq => hstandard q (List.mem_cons_of_mem _ hq)
    exact hrest.bind fun others _ => steady_pure (bound :: others)

theorem IsSteadyOn.steady_bindAll (h : spec.IsSteadyOn convention arguments) :
    Steady (spec.bindAll convention arguments) :=
  steady_bindFrom 1 (fun p hp => steady_resolve (h.members p hp)) h.converters h.standard

/-- The update that runs once and is like this one otherwise. -/
def single (spec : Spec) : Spec := { spec with batch := .bool false }

theorem bindFrom_single (spec : Spec) (denoted : Placeholder → Act Value) (position : Nat)
    (slots : List Placeholder) :
    spec.single.bindFrom denoted position slots = spec.bindFrom denoted position slots := by
  induction slots generalizing position with
  | nil => rfl
  | cons p rest ih =>
    unfold bindFrom
    simp only [ih]
    rfl

theorem bindAll_single (spec : Spec) (convention : AccessorConvention) (arguments : List Value) :
    spec.single.bindAll convention arguments = spec.bindAll convention arguments :=
  spec.bindFrom_single _ 1 _

end Spec

/-! ## Rows -/

namespace Invocation

variable {spec : Spec} {convention : AccessorConvention} {rows : List (List (Probe Value))}
  {sets : List (List Value)} {activity : Activity}

theorem bind_single_run (spec : Spec) (convention : AccessorConvention) (row : List Value)
    (activity : Activity) :
    (bind spec.single convention row activity).1 =
      ((spec.bindAll convention row activity).1).map fun values =>
        { arguments := row, parameterSets := [values], state := .singleBound } := by
  have hsingle : ¬ spec.single.isBatch = true := Bool.false_ne_true
  rw [bind, if_neg hsingle, Spec.bindAll_single, Act.map_run]

/-- What is bound for a steady row among others is what it gives on its own. -/
theorem exists_values_of_bindRows {i : Nat} {items : List (Probe Value)} {after : Activity}
    (h : bindRows spec convention rows activity = (.ok sets, after))
    (hitems : rows[i]? = some items) (hsteady : Steady (bindRow spec convention items)) :
    ∃ values, sets[i]? = some values ∧ AlwaysGives (bindRow spec convention items) values := by
  induction rows generalizing i activity sets with
  | nil => cases hitems
  | cons first rest ih =>
    obtain ⟨values, between, hvalues, h⟩ := Act.exists_of_bind_run_ok h
    obtain ⟨others, _, hothers, h⟩ := Act.exists_of_bind_run_ok h
    cases h
    cases i with
    | zero =>
      cases hitems
      exact ⟨values, rfl, hsteady.alwaysGives ⟨activity, between, hvalues⟩⟩
    | succ i =>
      obtain ⟨found, hfound, hgiven⟩ := ih hothers hitems
      exact ⟨found, hfound, hgiven⟩

/-- Rows fail as the first one that fails, whatever comes behind it. -/
theorem bindRows_eq_error {i : Nat} {items : List (Probe Value)} {failure : Failure}
    (hitems : rows[i]? = some items)
    (hfirst : ∀ j < i, ∀ other, rows[j]? = some other →
      ∃ values, AlwaysGives (bindRow spec convention other) values)
    (hfailed : AlwaysFails (bindRow spec convention items) failure) :
    AlwaysFails (bindRows spec convention rows) failure := by
  induction rows generalizing i with
  | nil => cases hitems
  | cons first rest ih =>
    intro activity
    cases i with
    | zero =>
      cases hitems
      rw [bindRows, Act.bind_run_error (Prod.ext (hfailed activity) rfl)]
    | succ i =>
      -- the first row is bound, and its values are dropped with the failure of the others
      obtain ⟨values, hvalues⟩ := hfirst 0 (Nat.succ_pos i) first rfl
      have hrest := ih hitems fun j hj => hfirst (j + 1) (Nat.succ_lt_succ hj)
      rw [bindRows, Act.bind_run_ok (Prod.ext (hvalues activity) rfl), Act.map_run, hrest]
      rfl

/-- What the items of row `i` are, read one after another. -/
def readAt (arguments : List Value) (i : Nat) : Probe (List Value) :=
  Batch.readRow (Batch.rowAt arguments i)

/-- Binding one row of a batch as the arguments of an update that runs once. -/
def bindAlone (spec : Spec) (convention : AccessorConvention) (arguments : List Value) (i : Nat) :
    Act Invocation := do
  let row ← Act.probe (readAt arguments i)
  bind spec.single convention row

/-- The outcome of binding one row of a batch as the arguments of an update that runs once. -/
def rowOutcome (spec : Spec) (convention : AccessorConvention) (arguments : List Value)
    (start : Activity) (i : Nat) : Except Failure Invocation :=
  (bindAlone spec convention arguments i start).1

/-- A batch is bound to `n` rows in order, each of which gave its values on its own, one for every
placeholder. -/
structure IsBoundByRows (spec : Spec) (convention : AccessorConvention) (arguments : List Value)
    (starts : Nat → Activity) (n : Nat) (c : Invocation) : Prop where
  given : c.arguments = arguments
  state : c.state = .batchBound
  batchLength : c.batchLength = some n
  count : c.parameterSets.length = n
  row : ∀ i < n, ∃ row values, AlwaysGives (readAt arguments i) row ∧
    c.parameterSets[i]? = some values ∧
    values.length = spec.template.placeholders.length ∧
    rowOutcome spec convention arguments (starts i) i =
      .ok { arguments := row, parameterSets := [values], state := .singleBound }

/-- User code answers the same whenever it is asked, for the items of the rows and while the rows
are bound. -/
structure HasSteadyRows (spec : Spec) (convention : AccessorConvention) (arguments : List Value) :
    Prop where
  items : ∀ i, Steady (readAt arguments i)
  rows : ∀ i row, MayGive (readAt arguments i) row → spec.IsSteadyOn convention row

section RowWise

variable {arguments : List Value} {i n : Nat} {start : Activity} {failure : Failure}

/-- A row has an outcome on its own as it has among others. -/
theorem rowOutcome_run (spec : Spec) (convention : AccessorConvention) (arguments : List Value)
    (i : Nat) (start : Activity) :
    (∃ row values, MayGive (readAt arguments i) row ∧
      (bindRow spec convention (Batch.rowAt arguments i) start).1 = .ok values ∧
      rowOutcome spec convention arguments start i =
        .ok { arguments := row, parameterSets := [values], state := .singleBound }) ∨
    ∃ failure, (bindRow spec convention (Batch.rowAt arguments i) start).1 = .error failure ∧
      rowOutcome spec convention arguments start i = .error failure := by
  unfold rowOutcome bindAlone bindRow
  rcases hread : Act.probe (readAt arguments i) start with ⟨failure | row, between⟩
  · refine .inr ⟨failure, ?_, ?_⟩
    · exact congrArg Prod.fst (Act.bind_run_error hread)
    · rw [Act.bind_run_error hread]
  · have hbound := congrArg Prod.fst
      (Act.bind_run_ok (f := fun row => spec.bindAll convention row) hread)
    rw [Act.bind_run_ok hread, bind_single_run]
    rcases hvalues : (spec.bindAll convention row between).1 with failure | values
    · exact .inr ⟨failure, hbound.trans hvalues, rfl⟩
    · exact .inl ⟨row, values, MayGive.of_probe ⟨start, between, hread⟩, hbound.trans hvalues, rfl⟩

/-- The library's own refusal of a shape does not come from a row. -/
theorem not_mayFail_bindAll_batchShape {row : List Value} {fault : BatchFault} :
    ¬ MayFail (spec.bindAll convention row) (.batchShape fault) := by
  intro h
  obtain ⟨i, p, -, hslot⟩ := Spec.of_mayFail_bindFrom h
  rcases Spec.of_mayFail_slot hslot rfl with ⟨other, hsame, -⟩ | hleak
  · cases hsame
  · obtain ⟨kind, text, hkind | hkind⟩ := hleak.outside
    · cases hkind
    · cases hkind

theorem refused_iff_misshapen (hbatch : spec.isBatch = true)
    (hasked : Batch.CanBeAsked arguments) (convention : AccessorConvention)
    (activity : Activity) :
    (∃ fault, (bind spec convention arguments activity).1 = .error (.batchShape fault)) ↔
      Batch.Misshapen arguments := by
  constructor
  · rintro ⟨fault, h⟩
    rcases of_mayFail_bind ⟨activity, _, Prod.ext h rfl⟩ with
      ⟨other, -, -, hmisshapen⟩ | ⟨-, hread⟩ | ⟨row, -, hrow⟩
    · exact hmisshapen
    · obtain ⟨kind, text, hkind | hkind⟩ := hread.outside
      · cases hkind
      · cases hkind
    · exact absurd hrow not_mayFail_bindAll_batchShape
  · intro hmisshapen
    rcases Batch.columns_cases hasked with ⟨-, fault, hfails⟩ | ⟨n, hlength⟩
    · refine ⟨fault, ?_⟩
      have hcolumns : Act.probe (Batch.columns arguments) activity = (.error _, _) :=
        Prod.ext (hfails activity.counts) rfl
      rw [bind, if_pos hbatch, Act.bind_run_error hcolumns]
    · exact absurd hmisshapen hlength.not_misshapen

theorem getElem?_rows (arguments : List Value) (hi : i < n) :
    ((List.range n).map (Batch.rowAt arguments))[i]? = some (Batch.rowAt arguments i) := by
  rw [List.getElem?_map, List.getElem?_range hi]
  rfl

theorem HasSteadyRows.steady_bindRow (h : HasSteadyRows spec convention arguments) (i : Nat) :
    Steady (bindRow spec convention (Batch.rowAt arguments i)) := by
  have : Nonempty Activity := ⟨{}⟩
  exact (h.items i).probe.bind fun row hrow => (h.rows i row hrow.of_probe).steady_bindAll

/-- A row that is bound on its own gives its values whatever ran before. -/
theorem exists_values_of_rowOutcome (hsteady : HasSteadyRows spec convention arguments)
    {c : Invocation} (h : rowOutcome spec convention arguments start i = .ok c) :
    ∃ values, AlwaysGives (bindRow spec convention (Batch.rowAt arguments i)) values := by
  rcases rowOutcome_run spec convention arguments i start with
    ⟨row, values, -, hvalues, -⟩ | ⟨failure, -, hfailed⟩
  · exact ⟨values, fun other => ((hsteady.steady_bindRow i).eq other start).trans hvalues⟩
  · rw [hfailed] at h
    cases h

/-- The rows of arguments of one length are bound in order, once the arguments were looked at. -/
theorem bind_run_of_hasLength (hbatch : spec.isBatch = true)
    (hlength : Batch.HasLength arguments n) (convention : AccessorConvention)
    (activity : Activity) :
    ∃ looked, (bind spec convention arguments activity).1 =
      ((bindRows spec convention ((List.range n).map (Batch.rowAt arguments)) looked).1).map
        fun parameterSets =>
          { arguments, parameterSets, batchLength := some n, state := .batchBound } := by
  have hcolumns : Act.probe (Batch.columns arguments) activity = (.ok (n, _), _) :=
    Prod.ext (Batch.alwaysGives_columns hlength activity.counts) rfl
  refine ⟨(Act.probe (Batch.columns arguments) activity).2, ?_⟩
  rw [bind, if_pos hbatch, Act.bind_run_ok hcolumns, ← Batch.rows_itemsOf]
  exact congrArg Prod.fst (Act.map_run _ _ _)

theorem isBoundByRows_of_bind (hbatch : spec.isBatch = true)
    (hlength : Batch.HasLength arguments n) (hsteady : HasSteadyRows spec convention arguments)
    (starts : Nat → Activity) {c : Invocation}
    (h : (bind spec convention arguments activity).1 = .ok c) :
    IsBoundByRows spec convention arguments starts n c := by
  obtain ⟨looked, hrun⟩ := bind_run_of_hasLength hbatch hlength convention activity
  rw [hrun] at h
  rcases hsets : bindRows spec convention ((List.range n).map (Batch.rowAt arguments)) looked with
    ⟨failure | sets, after⟩
  · rw [hsets] at h
    cases h
  · rw [hsets] at h
    cases h
    obtain ⟨hcount, hwidths⟩ := lengths_of_bindRows hsets
    rw [List.length_map, List.length_range] at hcount
    refine ⟨rfl, rfl, rfl, hcount, fun i hi => ?_⟩
    obtain ⟨values, hvalues, hgives⟩ :=
      exists_values_of_bindRows hsets (getElem?_rows arguments hi) (hsteady.steady_bindRow i)
    rcases rowOutcome_run spec convention arguments i (starts i) with
      ⟨row, found, hrow, hfound, houtcome⟩ | ⟨failure, hfails, -⟩
    · cases (hgives (starts i)).symm.trans hfound
      exact ⟨row, values, (hsteady.items i).alwaysGives hrow, hvalues,
        hwidths values (List.mem_of_getElem? hvalues), houtcome⟩
    · cases (hgives (starts i)).symm.trans hfails

theorem exists_bind_of_rowOutcome (hbatch : spec.isBatch = true)
    (hlength : Batch.HasLength arguments n) (hsteady : HasSteadyRows spec convention arguments)
    (starts : Nat → Activity)
    (h : ∀ i < n, ∃ c, rowOutcome spec convention arguments (starts i) i = .ok c)
    (activity : Activity) :
    ∃ c, (bind spec convention arguments activity).1 = .ok c := by
  obtain ⟨looked, hrun⟩ := bind_run_of_hasLength hbatch hlength convention activity
  rw [hrun]
  rcases hsets : bindRows spec convention ((List.range n).map (Batch.rowAt arguments)) looked with
    ⟨failure | sets, after⟩
  · -- a row would fail that does not
    obtain ⟨items, hitems, hfails⟩ := of_mayFail_bindRows ⟨looked, after, hsets⟩
    obtain ⟨i, hi, rfl⟩ := List.mem_map.1 hitems
    obtain ⟨c, hc⟩ := h i (List.mem_range.1 hi)
    obtain ⟨values, hvalues⟩ := exists_values_of_rowOutcome hsteady hc
    exact absurd hfails hvalues.not_mayFail
  · exact ⟨_, rfl⟩

theorem bind_eq_error_of_rowOutcome (hbatch : spec.isBatch = true)
    (hlength : Batch.HasLength arguments n) (hsteady : HasSteadyRows spec convention arguments)
    (starts : Nat → Activity) (hi : i < n)
    (hfirst : ∀ j < i, ∃ c, rowOutcome spec convention arguments (starts j) j = .ok c)
    (hfailed : rowOutcome spec convention arguments (starts i) i = .error failure)
    (activity : Activity) :
    (bind spec convention arguments activity).1 = .error failure := by
  have hothers : ∀ j < i, ∀ other,
      ((List.range n).map (Batch.rowAt arguments))[j]? = some other →
        ∃ values, AlwaysGives (bindRow spec convention other) values := by
    intro j hj other hother
    rw [getElem?_rows arguments (Nat.lt_trans hj hi)] at hother
    cases hother
    obtain ⟨c, hc⟩ := hfirst j hj
    exact exists_values_of_rowOutcome hsteady hc
  have hfails : AlwaysFails (bindRow spec convention (Batch.rowAt arguments i)) failure := by
    intro other
    rw [(hsteady.steady_bindRow i).eq other (starts i)]
    rcases rowOutcome_run spec convention arguments i (starts i) with
      ⟨row, values, -, -, hgiven⟩ | ⟨raised, hraised, hsame⟩
    · cases hgiven.symm.trans hfailed
    · cases hsame.symm.trans hfailed
      exact hraised
  obtain ⟨looked, hrun⟩ := bind_run_of_hasLength hbatch hlength convention activity
  rw [hrun, bindRows_eq_error (getElem?_rows arguments hi) hothers hfails looked]
  rfl

/-- A batch is refused by shape exactly when its arguments are misshapen, where all of them tell
what they are; otherwise it is bound as its rows are, one after another, each as the arguments of an
update that runs once.  User code is required to answer the same whenever it is asked; a failure
that it raises is the row's own, whatever its kind. -/
theorem batch_bound_row_wise (hbatch : spec.isBatch = true)
    (hasked : Batch.CanBeAsked arguments) (hsteady : HasSteadyRows spec convention arguments)
    (activity : Activity) (starts : Nat → Activity) :
    ((∃ fault, (bind spec convention arguments activity).1 = .error (.batchShape fault)) ↔
      Batch.Misshapen arguments) ∧
    (¬ Batch.Misshapen arguments → ∃ n, Batch.HasLength arguments n ∧
      ((∃ c, (bind spec convention arguments activity).1 = .ok c) ↔
        ∀ i < n, ∃ c, rowOutcome spec convention arguments (starts i) i = .ok c) ∧
      (∀ c, (bind spec convention arguments activity).1 = .ok c →
        IsBoundByRows spec convention arguments starts n c) ∧
      ∀ i < n, ∀ failure,
        (∀ j < i, ∃ c, rowOutcome spec convention arguments (starts j) j = .ok c) →
        rowOutcome spec convention arguments (starts i) i = .error failure →
          (bind spec convention arguments activity).1 = .error failure) := by
  refine ⟨refused_iff_misshapen hbatch hasked convention activity, fun hshape => ?_⟩
  obtain ⟨n, hlength⟩ := Batch.exists_hasLength hasked hshape
  have hbound : ∀ c, (bind spec convention arguments activity).1 = .ok c →
      IsBoundByRows spec convention arguments starts n c :=
    fun c hc => isBoundByRows_of_bind hbatch hlength hsteady starts hc
  refine ⟨n, hlength, ⟨?_, ?_⟩, hbound, ?_⟩
  · rintro ⟨c, hc⟩ i hi
    obtain ⟨row, values, -, -, -, hrow⟩ := (hbound c hc).row i hi
    exact ⟨_, hrow⟩
  · intro hrows
    exact exists_bind_of_rowOutcome hbatch hlength hsteady starts hrows activity
  · intro i hi failure hfirst hfailed
    exact bind_eq_error_of_rowOutcome hbatch hlength hsteady starts hi hfirst hfailed activity

/-- The accessor of the second row fails; so does the batch, with the failure of that row. -/
theorem batch_bound_row_wise_second_fails :
    let holder (action : Action Value) : Value := .object
      { name := "A", slots := [], call := none
        members := [("getX", .method
          { name := "getX", title := "A.getX", receives := true, parameters := [], action })] } []
    let arguments : List Value := [.list [holder (.give (.int 7)), holder (.fail .runtime "boom")]]
    let spec : Spec :=
      { template := { source := "SET a = ?\x7b1.x\x7d", segments :=
          [.literal "SET a = ", .placeholder { index := 1, path := ["x"] }] }
        batch := .bool true
        converters := [some { label := "twice", apply := fun v => pure (.list [v, v]) }] }
    (spec.isBatch = true ∧ Batch.CanBeAsked arguments ∧ HasSteadyRows spec {} arguments) ∧
      ∃ failure, failure.kind = .binding ∧ rowOutcome spec {} arguments {} 1 = .error failure ∧
        (bind spec {} arguments {}).1 = .error failure := by
  intro holder arguments spec
  have hmember : ∀ action target name,
      OnTheWay {} (holder action) ["x"] target name → target = holder action ∧ name = "x" := by
    intro action target name hway
    cases hway with
    | here => exact ⟨rfl, rfl⟩
    | further _ _ hrest => cases hrest
  have hasked : Batch.CanBeAsked arguments :=
    Batch.canBeAsked_of_silent (List.forall_mem_singleton.2 rfl)
  have hread : ∀ i, readAt arguments i =
      pure ([[holder (.give (.int 7)), holder (.fail .runtime "boom")]].filterMap (·[i]?)) :=
    fun i => Batch.readRow_rowAt_of_sequences rfl i
  have hconverters : ∀ v c, some c ∈ spec.converters → Steady (c.apply v) := by
    intro v c hc
    cases Option.some.inj (List.mem_singleton.1 hc)
    exact steady_pure _
  have hplaceholder : ∀ p ∈ spec.template.placeholders, p = { index := 1, path := ["x"] } :=
    fun p hp => List.mem_singleton.1 hp
  have hsteady : HasSteadyRows spec {} arguments := by
    refine ⟨fun i => hread i ▸ steady_pure _, fun i row hrow => ?_⟩
    rw [hread] at hrow
    obtain rfl := hrow.eq_of_pure
    -- the first row is bound, the accessor of the second fails, and there is no third
    match i with
    | 0 =>
      refine ⟨fun p hp v hv target name hway => ?_, fun _ _ v _ => hconverters v,
        fun p hp v hv => ?_⟩
      · obtain rfl := hplaceholder p hp
        cases hv
        obtain ⟨rfl, rfl⟩ := hmember _ _ _ hway
        exact ⟨_, fun _ => rfl⟩
      · obtain rfl := hplaceholder p hp
        have hgives : AlwaysGives (resolve {} { index := 1, path := ["x"] }
            [holder (.give (.int 7))]) (.int 7) := fun _ => rfl
        obtain ⟨activity, after, hrun⟩ := hv
        cases (hgives activity).symm.trans (congrArg Prod.fst hrun)
        exact steady_pure _
    | 1 =>
      refine ⟨fun p hp v hv target name hway => ?_, fun _ _ v _ => hconverters v,
        fun p hp v hv => ?_⟩
      · obtain rfl := hplaceholder p hp
        cases hv
        obtain ⟨rfl, rfl⟩ := hmember _ _ _ hway
        exact ⟨_, fun _ => rfl⟩
      · obtain rfl := hplaceholder p hp
        obtain ⟨activity, after, hrun⟩ := hv
        cases congrArg Prod.fst hrun
    | i + 2 =>
      refine ⟨fun p hp v hv => ?_, fun _ _ v _ => hconverters v, fun p hp v hv => ?_⟩
      · obtain rfl := hplaceholder p hp
        cases hv
      · obtain rfl := hplaceholder p hp
        exact absurd hv not_mayGive_throw
  have hlength : Batch.HasLength arguments 2 := Batch.hasLength_of_sequences
    (List.cons_ne_nil _ _) (List.forall_mem_singleton.2 ⟨_, rfl, rfl⟩)
  obtain ⟨-, hrows⟩ := batch_bound_row_wise rfl hasked hsteady {} fun _ => {}
  obtain ⟨n, hn, -, -, hfailed⟩ := hrows hlength.not_misshapen
  obtain rfl := hn.unique hlength
  obtain ⟨failure, hkind, hsecond⟩ : ∃ failure, failure.kind = .binding ∧
      rowOutcome spec {} arguments {} 1 = .error failure := ⟨_, rfl, rfl⟩
  refine ⟨⟨rfl, hasked, hsteady⟩, failure, hkind, hsecond, ?_⟩
  refine hfailed 1 (Nat.lt_succ_self 1) failure (fun j hj => ?_) hsecond
  obtain rfl : j = 0 := by omega
  exact ⟨_, rfl⟩

end RowWise

end Invocation
end BoundUpdate
