import BoundUpdate.Lookup.Entries
import BoundUpdate.Proofs.Activity.Outcomes

namespace BoundUpdate
namespace Lookup

/-!
# What reading gives

Reading an attribute may run code of the value.  What fails there arose outside
the library, so it is none of the library's own failures.  Routines may count
their runs, so an attribute may be another integer each time it is read; all
other outcomes of reading are the same whatever ran before.  No class is an
integer, so what an object tells about its class is the same as well.
-/

/-! ## Failures from outside -/

/-- A failure arose outside the library, and is not one that the library made itself. -/
def IsOutside (failure : Failure) : Prop :=
  ∃ kind text, failure = .raised kind text ∨ failure = .elementary kind text

theorem isOutside_raised (kind : FailureKind) (text : String) : IsOutside (.raised kind text) :=
  ⟨kind, text, .inl rfl⟩

theorem isOutside_elementary (kind : FailureKind) (text : String) :
    IsOutside (.elementary kind text) := ⟨kind, text, .inr rfl⟩

/-- A computation fails only with failures that arose outside the library. -/
def FailsOutside {α : Type} (x : Probe α) : Prop := ∀ failure, MayFail x failure → IsOutside failure

section FailsOutside

variable {α β : Type} {x : Probe α}

theorem failsOutside_pure (a : α) : FailsOutside (pure a : Probe α) :=
  fun _ h => absurd h (not_mayFail_pure a)

theorem failsOutside_throw {failure : Failure} (h : IsOutside failure) :
    FailsOutside (throw failure : Probe α) := fun _ hthrow => hthrow.eq_of_throw ▸ h

theorem failsOutside_raised (kind : FailureKind) (text : String) :
    FailsOutside (throw (.raised kind text) : Probe α) := failsOutside_throw (isOutside_raised _ _)

theorem failsOutside_elementary (kind : FailureKind) (text : String) :
    FailsOutside (throw (.elementary kind text) : Probe α) :=
  failsOutside_throw (isOutside_elementary _ _)

theorem failsOutside_ofExcept {outcome : Except Failure α}
    (h : ∀ failure, outcome = .error failure → IsOutside failure) :
    FailsOutside (Probe.ofExcept outcome) := fun failure hfails => h failure hfails.eq_of_ofExcept

theorem FailsOutside.bind {f : α → Probe β} (hx : FailsOutside x) (hf : ∀ a, FailsOutside (f a)) :
    FailsOutside (x >>= f) := by
  intro failure h
  rcases h.cases_of_bind with hfirst | ⟨a, -, hsecond⟩
  · exact hx failure hfirst
  · exact hf a failure hsecond

theorem FailsOutside.map (hx : FailsOutside x) (g : α → β) :
    FailsOutside (x >>= fun a => pure (g a)) := hx.bind fun a => failsOutside_pure (g a)

/-- A sequence that goes on with an outcome; a failure of it may be thrown again. -/
theorem FailsOutside.attempt_bind {g : Except Failure α → Probe β} (hx : FailsOutside x)
    (hok : ∀ a, FailsOutside (g (.ok a)))
    (herror : ∀ failure, IsOutside failure → FailsOutside (g (.error failure))) :
    FailsOutside (x.attempt >>= g) := by
  intro failure h
  rcases h.cases_of_probe_attempt with ⟨a, -, hfailed⟩ | ⟨raised, hraised, hfailed⟩
  · exact hok a failure hfailed
  · exact herror raised (hx raised hraised) failure hfailed

theorem FailsOutside.unlessMissing (hx : FailsOutside x) : FailsOutside (unlessMissing x) := by
  refine hx.attempt_bind (fun a => failsOutside_pure _) fun failure hfailure => ?_
  dsimp only
  split
  · exact failsOutside_pure _
  · exact failsOutside_throw hfailure

theorem failsOutside_checkOperands {γ : Type} (r : Routine γ) (given : Nat) :
    FailsOutside (Probe.ofExcept (r.checkOperands given)) := by
  unfold Routine.checkOperands
  dsimp only
  split
  · exact failsOutside_elementary _ _
  · split
    · exact failsOutside_elementary _ _
    · exact failsOutside_pure ()

end FailsOutside

theorem failsOutside_perform {read : String → Probe Value}
    (hread : ∀ field, FailsOutside (read field)) (self : Value) (action : Action Value) :
    FailsOutside (perform read self action) := by
  cases action with
  | give v => exact failsOutside_pure v
  | fail kind text => exact failsOutside_raised kind text
  | count cell =>
    rintro failure ⟨counts, after, h⟩
    cases h
  | self => exact failsOutside_pure self
  | read field => exact hread field

theorem failsOutside_objectAttribute (b : Blueprint Value) (fields : List (String × Value))
    (fuel : Nat) (name : String) : FailsOutside (objectAttribute b fields fuel name) := by
  induction fuel generalizing name with
  | zero => exact failsOutside_elementary _ _
  | succ fuel ih =>
    unfold objectAttribute
    extract_lets self read run own found
    -- what a routine reads is read with less fuel
    have hrun : ∀ r operands, FailsOutside (run r operands) := fun r operands =>
      (failsOutside_checkOperands r _).bind fun _ =>
        (failsOutside_perform (fun field => (ih field).map _) self r.action).map _
    have hown : FailsOutside own := by
      unfold own
      split
      · exact hrun _ _
      · split
        · exact failsOutside_pure _
        · exact failsOutside_pure _
        · exact failsOutside_pure _
        · exact failsOutside_elementary _ _
    have hfound : FailsOutside found := by
      unfold found
      split
      · exact hrun _ _
      · exact hown
    split
    · exact hfound
    · refine hfound.attempt_bind (fun a => failsOutside_pure a) fun failure hfailure => ?_
      dsimp only
      split
      · exact hrun _ _
      · exact failsOutside_throw hfailure

theorem failsOutside_readAttribute (v : Value) (name : String) :
    FailsOutside (readAttribute v name) := by
  unfold readAttribute
  split
  · exact failsOutside_objectAttribute _ _ _ name
  · split
    · exact failsOutside_pure _
    · exact failsOutside_elementary _ _
  · split
    · exact failsOutside_pure _
    · exact failsOutside_elementary _ _

/-! ### Classes that are told -/

theorem tellsMapping_of_silent {v : Value} (h : tellsClass v = false) :
    tellsMapping v = pure false := by
  unfold tellsMapping
  rw [h]
  rfl

theorem tells_of_silent {v : Value} (h : tellsClass v = false) (wanted : String) :
    tells v wanted = pure false := by
  unfold tells
  rw [h]
  rfl

theorem failsOutside_tells (v : Value) (wanted : String) : FailsOutside (tells v wanted) := by
  unfold tells
  split
  · refine (failsOutside_readAttribute _ _).unlessMissing.bind fun told => ?_
    cases told <;> exact failsOutside_pure _
  · exact failsOutside_pure _

theorem failsOutside_tellsSequence (v : Value) : FailsOutside (tellsSequence v) := by
  refine (failsOutside_tells v "list").bind fun isList => ?_
  split
  · exact failsOutside_pure _
  · exact failsOutside_tells v "tuple"

theorem failsOutside_tellsMapping (v : Value) : FailsOutside (tellsMapping v) := by
  unfold tellsMapping
  split
  · refine (failsOutside_readAttribute _ _).bind fun told => ?_
    dsimp only
    split
    · exact failsOutside_pure _
    · exact failsOutside_elementary _ _
  · exact failsOutside_pure _

/-! ### Special members -/

theorem isOutside_of_askWith {v : Value} {special : String} {operands : Nat} {failure : Failure}
    (h : v.askWith? special operands = some (.error failure)) : IsOutside failure := by
  unfold Value.askWith? at h
  split at h
  case h_2 => cases h
  extract_lets outcome at h
  -- a member that is called fails as its routine does, or refuses its operands
  have houtcome : ∀ r, outcome r = .error failure → IsOutside failure := by
    intro r hr
    unfold outcome at hr
    split at hr
    · split at hr
      · cases hr
      · cases hr
        exact isOutside_raised _ _
      · cases hr
      · cases hr
      · split at hr
        · cases hr
        · cases hr
          exact isOutside_elementary _ _
    · cases hr
      exact isOutside_elementary _ _
  split at h
  · exact houtcome _ (Option.some.inj h)
  · exact houtcome _ (Option.some.inj h)
  · exact houtcome _ (Option.some.inj h)
  · cases h
    exact isOutside_elementary _ _
  · cases h

theorem isOutside_of_asCount {answer : Value} {failure : Failure}
    (h : answer.asCount = .error failure) : IsOutside failure := by
  unfold Value.asCount at h
  split at h
  · split at h
    · cases h
      exact isOutside_elementary _ _
    · cases h
  · cases h
    exact isOutside_elementary _ _

theorem isOutside_of_count {v : Value} {failure : Failure} (h : v.count = .error failure) :
    IsOutside failure := by
  unfold Value.count at h
  split at h
  next told hasked =>
    cases told with
    | error raised =>
      cases h
      exact isOutside_of_askWith hasked
    | ok answer => exact isOutside_of_asCount h
  · cases h
  · cases h
    exact isOutside_elementary _ _

theorem isOutside_of_truth {v : Value} {failure : Failure} (h : v.truth = .error failure) :
    IsOutside failure := by
  unfold Value.truth at h
  split at h
  case h_2 => cases h
  unfold Value.objectTruth at h
  split at h
  · next hasked =>
    cases h
    exact isOutside_of_askWith hasked
  · cases h
  · cases h
    exact isOutside_elementary _ _
  · next told _ hasked =>
    cases told with
    | error raised =>
      cases h
      exact isOutside_of_askWith hasked
    | ok answer =>
      rcases hcount : answer.asCount with raised | n
      · simp only [Except.bind, hcount, Except.map] at h
        cases h
        exact isOutside_of_asCount hcount
      · simp only [Except.bind, hcount, Except.map] at h
        cases h
  · cases h

theorem isOutside_of_objectItems {v : Value} {failure : Failure}
    (h : v.objectItems = .error failure) : IsOutside failure := by
  unfold Value.objectItems at h
  split at h
  · next hasked =>
    cases h
    exact isOutside_of_askWith hasked
  · split at h
    · next hasked =>
      cases h
      exact isOutside_of_askWith hasked
    · cases h
      exact isOutside_elementary _ _
  · cases h
    exact isOutside_elementary _ _

theorem isOutside_of_toItems {v : Value} {failure : Failure} (h : v.toItems = .error failure) :
    IsOutside failure := by
  unfold Value.toItems at h
  split at h
  · cases h
  · split at h
    · next hasked =>
      split at h
      · cases h
      · cases h
        exact isOutside_of_askWith hasked
    · exact isOutside_of_objectItems h

/-- What a call with operands does: it runs a routine, or it has its outcome at once. -/
inductive IsCall : Probe Value → Prop
  | routine (r : Routine Value) (operands : List Value) : IsCall (callRoutine r operands)
  | outcome (outcome : Except Failure Value) :
      (∀ failure, outcome = .error failure → IsOutside failure) → IsCall (Probe.ofExcept outcome)

theorem isCall_pure (v : Value) : IsCall (pure v) := .outcome (.ok v) nofun

theorem isCall_elementary (kind : FailureKind) (text : String) :
    IsCall (throw (.elementary kind text)) := by
  refine .outcome (.error (.elementary kind text)) fun failure h => ?_
  cases h
  exact isOutside_elementary kind text

theorem isCall_count (v : Value) : IsCall (do return .int (← Probe.ofExcept v.count)) := by
  rcases hcount : v.count with failure | n
  · refine .outcome (.error failure) fun raised h => ?_
    exact isOutside_of_count (hcount.trans (Except.error.inj h ▸ rfl))
  · exact isCall_pure (.int n)

/-- Only a class that is called without operands does more. -/
theorem isCall_call {v : Value} {operands : List Value} {call : Probe Value}
    (hoperands : operands ≠ []) (h : call? v operands = some call) : IsCall call := by
  unfold call? at h
  split at h
  · cases h
    exact .routine _ _
  · cases h
    split
    · exact isCall_pure _
    · exact isCall_elementary _ _
  · cases h
    split
    · exact isCall_count _
    · exact isCall_elementary _ _
  · cases h
    split
    · exact isCall_pure _
    · exact isCall_elementary _ _
  · obtain ⟨r, -, rfl⟩ := Option.map_eq_some_iff.1 h
    exact .routine _ _
  · split at h
    next hempty =>
      simp only [Bool.and_eq_true, List.isEmpty_iff] at hempty
      exact absurd hempty.2 hoperands
    · cases h
  · cases h

theorem isCall_callMember {b : Blueprint Value} {self : Value} {m : Member Value}
    {operands : List Value} {call : Probe Value} (hoperands : operands ≠ [])
    (h : callAttribute? (memberOfObject b self m) operands = some call) : IsCall call := by
  unfold memberOfObject at h
  split at h
  all_goals first
    | exact isCall_call hoperands h
    | (cases h; exact .routine _ _)

theorem isCall_askSpecial {v : Value} {special : String} {operands : List Value}
    {answer : Probe Value} (hoperands : operands ≠ [])
    (h : askSpecial? v special operands = some answer) : IsCall answer := by
  unfold askSpecial? at h
  split at h
  · obtain ⟨m, -, rfl⟩ := Option.map_eq_some_iff.1 h
    cases hcall : callAttribute? (memberOfObject _ _ m) operands with
    | none => exact isCall_elementary _ _
    | some call => exact isCall_callMember hoperands hcall
  · cases h

theorem isCall_itemOf (v key : Value) : IsCall (itemOf v key) := by
  unfold itemOf
  cases h : askSpecial? v "__getitem__" [key] with
  | none => exact isCall_elementary _ _
  | some answer => exact isCall_askSpecial (List.cons_ne_nil _ _) h

theorem IsCall.failsOutside {call : Probe Value} (h : IsCall call) : FailsOutside call := by
  cases h with
  | routine r operands =>
    exact (failsOutside_checkOperands r _).bind fun _ =>
      failsOutside_perform (fun field => (failsOutside_readAttribute _ field).map _) _ _
  | outcome outcome houtcome => exact failsOutside_ofExcept houtcome

theorem failsOutside_itemOf (v key : Value) : FailsOutside (itemOf v key) :=
  (isCall_itemOf v key).failsOutside

theorem failsOutside_holds (v key : Value) : FailsOutside (holds v key) := by
  unfold holds
  split
  · next h =>
    exact (isCall_askSpecial (List.cons_ne_nil _ _) h).failsOutside.bind fun answer =>
      failsOutside_ofExcept fun _ htruth => isOutside_of_truth htruth
  · split
    · exact failsOutside_pure _
    · next hitems =>
      refine failsOutside_throw ?_
      split
      · exact isOutside_elementary _ _
      · exact isOutside_of_toItems hitems

/-! ## Outcomes that do not depend on what ran before -/

/-- A computation has one outcome, or it always gives an answer of a certain kind. -/
def SteadyBut {α : Type} (varies : α → Prop) (x : Probe α) : Prop :=
  Steady x ∨ ∀ counts, ∃ a, varies a ∧ (x counts).1 = .ok a

section SteadyBut

variable {α β : Type} {varies : α → Prop} {x : Probe α}

theorem SteadyBut.map {g : α → β} {varies' : β → Prop} (hx : SteadyBut varies x)
    (hg : ∀ a, varies a → varies' (g a)) : SteadyBut varies' (x >>= fun a => pure (g a)) := by
  rcases hx with hx | hx
  · exact .inl (hx.bind fun a _ => steady_pure (g a))
  · refine .inr fun counts => ?_
    obtain ⟨a, ha, hrun⟩ := hx counts
    refine ⟨g a, hg a ha, ?_⟩
    rw [Act.bind_run_ok (Prod.ext hrun rfl)]
    rfl

theorem SteadyBut.weaken {varies' : α → Prop} (hx : SteadyBut varies x)
    (h : ∀ a, varies a → varies' a) : SteadyBut varies' x :=
  hx.imp_right fun hx counts => (hx counts).imp fun a => And.imp_left (h a)

theorem SteadyBut.alwaysGives {a : α} (hx : SteadyBut varies x) (hgives : MayGive x a)
    (ha : ¬ varies a) : AlwaysGives x a := by
  rcases hx with hx | hx
  · exact hx.alwaysGives hgives
  · obtain ⟨counts, after, hrun⟩ := hgives
    obtain ⟨b, hb, hother⟩ := hx counts
    rw [hrun] at hother
    exact absurd (Except.ok.inj hother ▸ hb) ha

/-- An answer is handed on, and a failure may be followed by something else. -/
theorem SteadyBut.attempt_bind_or {g : Except Failure α → Probe α} (hx : SteadyBut varies x)
    (hok : ∀ a, g (.ok a) = pure a) (herror : ∀ failure, SteadyBut varies (g (.error failure))) :
    SteadyBut varies (x.attempt >>= g) := by
  have hattempt : ∀ counts, x.attempt counts = (.ok (x counts).1, (x counts).2) := fun _ => rfl
  rcases hx with ⟨failure | a, hx⟩ | hx
  · -- the failure is always the same one, so what follows is
    have hgo : ∀ counts, (x.attempt >>= g) counts = g (.error failure) (x counts).2 := by
      intro counts
      rw [Act.bind_run_ok (hattempt counts), hx]
    rcases herror failure with ⟨outcome, hsteady⟩ | hvaries
    · exact .inl ⟨outcome, fun counts => by rw [hgo, hsteady]⟩
    · exact .inr fun counts => by rw [hgo]; exact hvaries _
  · refine .inl ⟨.ok a, fun counts => ?_⟩
    rw [Act.bind_run_ok (hattempt counts), hx, hok]
    rfl
  · refine .inr fun counts => ?_
    obtain ⟨a, ha, hrun⟩ := hx counts
    refine ⟨a, ha, ?_⟩
    rw [Act.bind_run_ok (hattempt counts), hrun, hok]
    rfl

theorem SteadyBut.unlessMissing (hx : SteadyBut varies x) :
    SteadyBut (fun found => ∃ a, varies a ∧ found = some a) (unlessMissing x) := by
  have hattempt : ∀ counts, x.attempt counts = (.ok (x counts).1, (x counts).2) := fun _ => rfl
  rcases hx with hx | hx
  · refine .inl (hx.probe_attempt_bind (fun a _ => steady_pure _) fun failure => ?_)
    dsimp only
    split
    · exact steady_pure _
    · exact steady_throw _
  · refine .inr fun counts => ?_
    obtain ⟨a, ha, hrun⟩ := hx counts
    refine ⟨some a, ⟨a, ha, rfl⟩, ?_⟩
    rw [Lookup.unlessMissing, Act.bind_run_ok (hattempt counts), hrun]
    rfl

/-- What goes on with an answer alike for all that vary is steady. -/
theorem SteadyBut.bind {f : α → Probe β} (hx : SteadyBut varies x)
    (hf : ∀ a, Steady (f a)) (outcome : Except Failure β)
    (hvaries : ∀ a, varies a → ∀ counts, (f a counts).1 = outcome) : Steady (x >>= f) := by
  rcases hx with hx | hx
  · exact hx.bind fun a _ => hf a
  · refine ⟨outcome, fun counts => ?_⟩
    obtain ⟨a, ha, hrun⟩ := hx counts
    rw [Act.bind_run_ok (Prod.ext hrun rfl)]
    exact hvaries a ha _

end SteadyBut

/-- Whether a value is an integer, as counts are. -/
def IsInteger (v : Value) : Prop := ∃ n, v = .int n

/-- Whether an attribute is an integer. -/
def IsCount (a : Attribute) : Prop := ∃ n, a = .value (.int n)

theorem steadyBut_perform {read : String → Probe Value}
    (hread : ∀ field, SteadyBut IsInteger (read field)) (self : Value)
    (action : Action Value) :
    SteadyBut IsInteger (perform read self action) := by
  cases action with
  | give v => exact .inl (steady_pure v)
  | fail kind text => exact .inl (steady_throw _)
  | count cell => exact .inr fun counts => ⟨_, ⟨_, rfl⟩, rfl⟩
  | self => exact .inl (steady_pure self)
  | read field => exact hread field

theorem steadyBut_objectAttribute (b : Blueprint Value) (fields : List (String × Value))
    (fuel : Nat) (name : String) : SteadyBut IsCount (objectAttribute b fields fuel name) := by
  induction fuel generalizing name with
  | zero => exact .inl (steady_throw _)
  | succ fuel ih =>
    unfold objectAttribute
    extract_lets self read run own found
    have hrun : ∀ r operands, SteadyBut IsCount (run r operands) := by
      intro r operands
      unfold run
      rcases r.checkOperands operands.length with failure | ⟨⟩
      · exact .inl (steady_throw failure)
      · rw [Probe.ofExcept_ok_bind]
        -- what a routine reads is read with less fuel
        have hread : ∀ field, SteadyBut IsInteger (read field) := fun field =>
          (ih field).map fun _ ⟨n, hn⟩ => ⟨n, hn ▸ rfl⟩
        exact (steadyBut_perform hread self r.action).map fun _ ⟨n, hn⟩ => ⟨n, hn ▸ rfl⟩
    have hown : SteadyBut IsCount own := by
      unfold own
      split
      · exact hrun _ _
      · split
        · exact .inl (steady_pure _)
        · exact .inl (steady_pure _)
        · exact .inl (steady_pure _)
        · exact .inl (steady_throw _)
    have hfound : SteadyBut IsCount found := by
      unfold found
      split
      · exact hrun _ _
      · exact hown
    split
    · exact hfound
    · refine hfound.attempt_bind_or (fun _ => rfl) fun failure => ?_
      dsimp only
      split
      · exact hrun _ _
      · exact .inl (steady_throw failure)

theorem steadyBut_readAttribute (v : Value) (name : String) :
    SteadyBut IsCount (readAttribute v name) := by
  unfold readAttribute
  split
  · exact steadyBut_objectAttribute _ _ _ name
  · split
    · exact .inl (steady_pure _)
    · exact .inl (steady_throw _)
  · split
    · exact .inl (steady_pure _)
    · exact .inl (steady_throw _)

/-! ### Special members -/

theorem IsCall.steadyBut {call : Probe Value} (h : IsCall call) :
    SteadyBut IsInteger call := by
  cases h with
  | routine r operands =>
    unfold callRoutine
    rcases r.checkOperands operands.length with failure | ⟨⟩
    · exact .inl (steady_throw failure)
    · rw [Probe.ofExcept_ok_bind]
      refine steadyBut_perform (fun field => ?_) _ _
      exact (steadyBut_readAttribute _ field).map fun _ ⟨n, hn⟩ => ⟨n, hn ▸ rfl⟩
  | outcome _ => exact .inl (steady_ofExcept _)

theorem steadyBut_itemOf (v key : Value) :
    SteadyBut IsInteger (itemOf v key) := (isCall_itemOf v key).steadyBut

/-! ### Told classes -/

theorem steady_tells (v : Value) (wanted : String) : Steady (tells v wanted) := by
  unfold tells
  split
  · have hread : SteadyBut (fun found => ∃ n, found = some (Attribute.value (.int n)))
        (unlessMissing (readAttribute v "__class__")) :=
      (steadyBut_readAttribute v "__class__").unlessMissing.weaken fun _ ⟨_, ⟨n, hn⟩, ha⟩ =>
        ⟨n, ha ▸ hn ▸ rfl⟩
    refine hread.bind (fun found => ?_) (.ok false) ?_
    · cases found <;> exact steady_pure _
    · rintro _ ⟨n, rfl⟩ counts
      rfl
  · exact steady_pure _

theorem steady_tellsSequence (v : Value) : Steady (tellsSequence v) :=
  (steady_tells v "list").bind fun isList _ => by
    split
    · exact steady_pure _
    · exact steady_tells v "tuple"

end Lookup
end BoundUpdate
