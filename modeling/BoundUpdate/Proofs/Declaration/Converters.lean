import BoundUpdate.Proofs.Activity.Outcomes
import BoundUpdate.Declaration.Spec

namespace BoundUpdate

/-!
# The converters of a declared update

A declaration names a converter for each bind position, by an entry of a list.
The standard conversion is what an entry names that is nothing, the base type of
converters or an instance of it; every other entry names a converter, or makes
the declaration fail.  Nothing else that is declared depends on the entries.
-/

namespace ConverterEntry

/-- Whether an entry names the standard conversion. -/
def isStandard : ConverterEntry → Bool
  | .standard => true
  | .value .none => true
  | _ => false

/-- Values that are not nothing name converters. -/
theorem isSome_of_converterOfValue {v : Value} (hv : v ≠ .none) {converter : Option Converter}
    (h : MayGive (converterOfValue v) converter) : converter.isSome = true := by
  unfold converterOfValue at h
  split at h
  · exact absurd rfl hv
  · exact absurd h not_mayGive_throw
  · obtain ⟨isType, -, h⟩ := h.cases_of_bind
    cases isType with
    | true => exact absurd h not_mayGive_throw
    | false =>
      obtain ⟨-, -, h⟩ := h.cases_of_bind
      obtain ⟨found, -, h⟩ := h.cases_of_bind
      cases found with
      | some c => rw [h.eq_of_pure]; rfl
      | none =>
        dsimp only at h
        cases hcalled : Converter.ofValue? v with
        | some c =>
          rw [hcalled] at h
          rw [h.eq_of_pure]
          rfl
        | none =>
          rw [hcalled] at h
          exact absurd h not_mayGive_throw

/-- Entries name no converter exactly when they name the standard conversion. -/
theorem isSome_of_toConverter {entry : ConverterEntry} {converter : Option Converter}
    (h : MayGive entry.toConverter converter) : converter.isSome = !entry.isStandard := by
  cases entry with
  | standard => rw [h.eq_of_pure]; rfl
  | type name instantiate =>
    cases instantiate with
    | ok c => rw [MayGive.eq_of_pure h]; rfl
    | error failure =>
      unfold toConverter at h
      dsimp only at h
      split at h
      · exact absurd h not_mayGive_throw
      · exact absurd h not_mayGive_throw
  | converter c => rw [h.eq_of_pure]; rfl
  | foreignType name => exact absurd h not_mayGive_throw
  | duck label convert call =>
    cases convert with
    | some f => rw [MayGive.eq_of_pure h]; rfl
    | none =>
      cases call with
      | some f => rw [MayGive.eq_of_pure h]; rfl
      | none => exact absurd h not_mayGive_throw
  | function name apply => rw [h.eq_of_pure]; rfl
  | value v =>
    by_cases hv : v = .none
    · subst hv
      rw [MayGive.eq_of_pure h]
      rfl
    · have hstandard : (ConverterEntry.value v).isStandard = false := by
        cases v <;> first | rfl | exact absurd rfl hv
      rw [hstandard]
      exact isSome_of_converterOfValue hv h

end ConverterEntry

namespace Spec

variable {entries : List ConverterEntry} {converters : List (Option Converter)}

/-- There is one converter for each entry, at its place, and it is what the entry names. -/
theorem rel_of_convertersOf (h : MayGive (convertersOf entries) converters) (i : Nat) :
    Option.Rel (fun entry => MayGive entry.toConverter) entries[i]? converters[i]? := by
  induction entries generalizing converters i with
  | nil =>
    rw [MayGive.eq_of_pure h]
    exact .none
  | cons entry rest ih =>
    obtain ⟨counts, after, hrun⟩ := h
    obtain ⟨converter, between, hconverter, hrun⟩ := Act.exists_of_bind_run_ok hrun
    obtain ⟨others, between', hothers, hrun⟩ := Act.exists_of_bind_run_ok hrun
    cases hrun
    cases i with
    | zero => exact .some ⟨counts, between, hconverter⟩
    | succ i => exact ih ⟨between, _, hothers⟩ i

/-- Entries are read in order: the first ones name the same converters whatever is behind them. -/
theorem convertersOf_take {counts after : Counts} (n : Nat)
    (h : convertersOf entries counts = (.ok converters, after)) :
    ∃ after', convertersOf (entries.take n) counts = (.ok (converters.take n), after') := by
  induction n generalizing entries converters counts with
  | zero => exact ⟨_, rfl⟩
  | succ n ih =>
    cases entries with
    | nil =>
      cases h
      exact ⟨_, rfl⟩
    | cons entry rest =>
      obtain ⟨converter, between, hconverter, h⟩ := Act.exists_of_bind_run_ok h
      obtain ⟨others, between', hothers, h⟩ := Act.exists_of_bind_run_ok h
      cases h
      obtain ⟨after', htake⟩ := ih hothers
      refine ⟨after', ?_⟩
      rw [List.take_succ_cons, convertersOf, Act.bind_run_ok hconverter, Act.bind_run_ok htake]
      rfl

/-! ## Declaring -/

/-- What is declared about an update, its converters apart. -/
def frame (request : SpecRequest) : Act Spec := do
  let label ← Act.ofExcept ((request.label.getD .none).orElse standardLabel)
  let name := label.plain
  if ← Act.ofExcept (isBlankStatement request.sql) then
    throw (.configuration (.noStatement name))
  let held ← Template.fetch request.sql
  let keys ← Act.ofExcept (KeyRequest.ofValue request.keys)
  let returns ← Act.ofExcept (ReturnShape.ofValue request.returns)
  let keyColumns ← Act.ofExcept (itemsOf request.keyColumns)
  match modeFault? name (← Act.ofExcept request.batch.truth) keys returns keyColumns with
  | some fault => throw (.configuration fault)
  | none =>
    return { template := held.template, batch := request.batch, keys, returns, keyColumns,
             arity := request.arity, label, told := held.told }

/-- A declaration is its frame with converters, and some notes. -/
theorem build_eq (request : SpecRequest) :
    build request = frame request >>= fun spec =>
      Act.probe (convertersOf request.bindings) >>= fun converters =>
        noteExtra spec.name converters.length spec.template.placeholders.length >>= fun _ =>
          noteUnreachable spec.name spec.template.maxIndex request.arity >>= fun _ =>
            pure { spec with converters } := by
  unfold build frame
  simp only [bind_assoc]
  refine bind_congr fun label => bind_congr fun blank => ?_
  cases blank with
  | true => rfl
  | false =>
    simp only [Bool.false_eq_true, if_false, bind_assoc]
    -- up to the check of the modes, both sides do the same
    refine bind_congr fun held => bind_congr fun keys => bind_congr fun returns =>
      bind_congr fun keyColumns => bind_congr fun batch => ?_
    cases modeFault? label.plain batch keys returns keyColumns with
    | some fault => rfl
    | none =>
      simp only [pure_bind]
      rfl

variable {request : SpecRequest} {spec : Spec} {declared : Activity}

theorem noteExtra_run (name : String) (converters placeholders : Nat) (activity : Activity) :
    ∃ after, noteExtra name converters placeholders activity = (.ok (), after) := by
  unfold noteExtra
  split
  · exact ⟨_, rfl⟩
  · exact ⟨_, rfl⟩

theorem steady_noteUnreachable (name : String) (maxIndex : Int) (arity : Value) :
    Steady (noteUnreachable name maxIndex arity) := by
  have : Nonempty Activity := ⟨{}⟩
  unfold noteUnreachable
  split
  · exact steady_pure ()
  · refine Steady.bind ⟨_, fun _ => rfl⟩ fun below _ => ?_
    cases below with
    | true => exact ⟨_, fun _ => rfl⟩
    | false => exact steady_pure ()

/-- What a declaration that succeeds consists of. -/
theorem build_eq_ok_iff :
    (build request declared).1 = .ok spec ↔
      ∃ framed between converters, frame request declared = (.ok framed, between) ∧
        (convertersOf request.bindings between.counts).1 = .ok converters ∧
        AlwaysGives (noteUnreachable framed.name framed.template.maxIndex request.arity) () ∧
        spec = { framed with converters } := by
  have hsteady : ∀ framed : Spec,
      Steady (noteUnreachable framed.name framed.template.maxIndex request.arity) :=
    fun framed => steady_noteUnreachable _ _ _
  rw [build_eq]
  constructor
  · intro h
    obtain ⟨framed, between, hframe, h⟩ := Act.exists_of_bind_run_ok (Prod.ext h rfl)
    obtain ⟨converters, counted, hconverters, h⟩ := Act.exists_of_bind_run_ok h
    obtain ⟨_, noted, _, h⟩ := Act.exists_of_bind_run_ok h
    obtain ⟨_, reached, hreached, h⟩ := Act.exists_of_bind_run_ok h
    cases h
    exact ⟨framed, between, converters, hframe, congrArg Prod.fst hconverters,
      (hsteady framed).alwaysGives ⟨noted, _, hreached⟩, rfl⟩
  · rintro ⟨framed, between, converters, hframe, hconverters, hreached, rfl⟩
    have hprobe : Act.probe (convertersOf request.bindings) between =
        (.ok converters, (Act.probe (convertersOf request.bindings) between).2) :=
      Prod.ext hconverters rfl
    obtain ⟨noted, hnoted⟩ := noteExtra_run framed.name converters.length
      framed.template.placeholders.length (Act.probe (convertersOf request.bindings) between).2
    rw [Act.bind_run_ok hframe, Act.bind_run_ok hprobe, Act.bind_run_ok hnoted,
      Act.bind_run_ok (Prod.ext (hreached noted) rfl)]
    rfl

/-- A declaration that names neither converters nor an arity is its frame. -/
theorem build_of_frame {after : Activity} (hbindings : request.bindings = [])
    (harity : request.arity = .none) (h : frame request declared = (.ok spec, after))
    (hconverters : spec.converters = []) : (build request declared).1 = .ok spec := by
  refine build_eq_ok_iff.2 ⟨spec, after, [], h, ?_, ?_, by rw [← hconverters]⟩
  · rw [hbindings]
    rfl
  · rw [harity]
    exact fun _ => rfl

/-- The converters of a declared update are the ones that the entries name. -/
theorem mayGive_convertersOf_of_build (h : (build request declared).1 = .ok spec) :
    MayGive (convertersOf request.bindings) spec.converters := by
  obtain ⟨framed, between, converters, -, hconverters, -, rfl⟩ := build_eq_ok_iff.1 h
  exact ⟨between.counts, _, Prod.ext hconverters rfl⟩

/-- A declaration with the first entries only is the declaration with the first converters only. -/
theorem build_take (h : (build request declared).1 = .ok spec) (n : Nat) :
    (build { request with bindings := request.bindings.take n } declared).1 =
      .ok { spec with converters := spec.converters.take n } := by
  obtain ⟨framed, between, converters, hframe, hconverters, hreached, rfl⟩ := build_eq_ok_iff.1 h
  obtain ⟨after, htake⟩ := convertersOf_take n (Prod.ext hconverters rfl)
  exact build_eq_ok_iff.2
    ⟨framed, between, converters.take n, hframe, congrArg Prod.fst htake, hreached, rfl⟩

end Spec
end BoundUpdate
