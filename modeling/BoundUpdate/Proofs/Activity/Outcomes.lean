import BoundUpdate.Proofs.Activity.Running

namespace BoundUpdate

/-!
# Possible outcomes

Where a failure comes from does not depend on the traces that a computation
finds.  A failure is possible when it occurs on some traces; a possible failure
of a sequence is one of its first part, or one of its second part for an answer
that is possible for the first one.  A computation is steady when only one
outcome is possible.
-/

section Outcomes

variable {σ α β : Type}

/-- A computation fails with a failure, on some traces. -/
def MayFail (x : ExceptT Failure (StateM σ) α) (failure : Failure) : Prop :=
  ∃ state after, x state = (.error failure, after)

/-- A computation gives an answer, on some traces. -/
def MayGive (x : ExceptT Failure (StateM σ) α) (a : α) : Prop :=
  ∃ state after, x state = (.ok a, after)

variable {x : ExceptT Failure (StateM σ) α} {f : α → ExceptT Failure (StateM σ) β}
  {failure : Failure}

theorem not_mayFail_pure (a : α) : ¬ MayFail (pure a : ExceptT Failure (StateM σ) α) failure := by
  rintro ⟨state, after, h⟩
  cases h

theorem MayFail.eq_of_throw {given : Failure}
    (h : MayFail (throw given : ExceptT Failure (StateM σ) α) failure) : failure = given := by
  obtain ⟨state, after, h⟩ := h
  cases h
  rfl

theorem MayFail.cases_of_bind (h : MayFail (x >>= f) failure) :
    MayFail x failure ∨ ∃ a, MayGive x a ∧ MayFail (f a) failure := by
  obtain ⟨state, after, h⟩ := h
  rcases Act.bind_run_error_cases h with hx | ⟨a, between, hx, hf⟩
  · exact .inl ⟨state, after, hx⟩
  · exact .inr ⟨a, ⟨state, between, hx⟩, ⟨between, after, hf⟩⟩

/-- What follows without running anything does not fail. -/
theorem MayFail.of_map {g : α → β} (h : MayFail (x >>= fun a => pure (g a)) failure) :
    MayFail x failure := by
  rcases h.cases_of_bind with hx | ⟨a, -, hpure⟩
  · exact hx
  · exact absurd hpure (not_mayFail_pure (g a))

/-- A sequence that goes on with the outcome `tried` of a computation fails there only. -/
theorem MayFail.cases_of_tried {tried : ExceptT Failure (StateM σ) (Except Failure α)}
    {g : Except Failure α → ExceptT Failure (StateM σ) β}
    (htried : ∀ state, tried state = (.ok (x state).1, (x state).2))
    (h : MayFail (tried >>= g) failure) :
    (∃ a, MayGive x a ∧ MayFail (g (.ok a)) failure) ∨
      ∃ raised, MayFail x raised ∧ MayFail (g (.error raised)) failure := by
  obtain ⟨state, after, h⟩ := h
  rw [Act.bind_run_ok (htried state)] at h
  rcases hx : x state with ⟨raised | a, between⟩
  · rw [hx] at h
    exact .inr ⟨raised, ⟨state, between, hx⟩, ⟨between, after, h⟩⟩
  · rw [hx] at h
    exact .inl ⟨a, ⟨state, between, hx⟩, ⟨between, after, h⟩⟩

/-- A sequence that goes on with the outcome `tried` of a computation gives what it gives for it. -/
theorem MayGive.cases_of_tried {tried : ExceptT Failure (StateM σ) (Except Failure α)}
    {g : Except Failure α → ExceptT Failure (StateM σ) β} {b : β}
    (htried : ∀ state, tried state = (.ok (x state).1, (x state).2))
    (h : MayGive (tried >>= g) b) :
    (∃ a, MayGive x a ∧ MayGive (g (.ok a)) b) ∨
      ∃ raised, MayFail x raised ∧ MayGive (g (.error raised)) b := by
  obtain ⟨state, after, h⟩ := h
  rw [Act.bind_run_ok (htried state)] at h
  rcases hx : x state with ⟨raised | a, between⟩
  · rw [hx] at h
    exact .inr ⟨raised, ⟨state, between, hx⟩, ⟨between, after, h⟩⟩
  · rw [hx] at h
    exact .inl ⟨a, ⟨state, between, hx⟩, ⟨between, after, h⟩⟩

theorem MayGive.eq_of_pure {a b : α}
    (h : MayGive (pure a : ExceptT Failure (StateM σ) α) b) : b = a := by
  obtain ⟨state, after, h⟩ := h
  cases h
  rfl

theorem MayGive.cases_of_bind {b : β} (h : MayGive (x >>= f) b) :
    ∃ a, MayGive x a ∧ MayGive (f a) b := by
  obtain ⟨state, after, h⟩ := h
  obtain ⟨a, between, hx, hf⟩ := Act.exists_of_bind_run_ok h
  exact ⟨a, ⟨state, between, hx⟩, ⟨between, after, hf⟩⟩

theorem not_mayGive_throw {a : α} :
    ¬ MayGive (throw failure : ExceptT Failure (StateM σ) α) a := by
  rintro ⟨state, after, h⟩
  cases h

/-! ## One outcome -/

/-- The outcome of a computation does not depend on the traces that it finds. -/
def Steady (x : ExceptT Failure (StateM σ) α) : Prop := ∃ outcome, ∀ state, (x state).1 = outcome

theorem Steady.eq (h : Steady x) (state state' : σ) : (x state).1 = (x state').1 := by
  obtain ⟨outcome, h⟩ := h
  rw [h, h]

/-- A computation gives an answer, whatever traces it finds. -/
def AlwaysGives (x : ExceptT Failure (StateM σ) α) (a : α) : Prop := ∀ state, (x state).1 = .ok a

/-- A computation fails with a failure, whatever traces it finds. -/
def AlwaysFails (x : ExceptT Failure (StateM σ) α) (failure : Failure) : Prop :=
  ∀ state, (x state).1 = .error failure

theorem Steady.cases (h : Steady x) :
    (∃ a, AlwaysGives x a) ∨ ∃ failure, AlwaysFails x failure := by
  obtain ⟨outcome, h⟩ := h
  cases outcome with
  | ok a => exact .inl ⟨a, h⟩
  | error failure => exact .inr ⟨failure, h⟩

theorem Steady.alwaysGives {a : α} (h : Steady x) (hgives : MayGive x a) : AlwaysGives x a := by
  obtain ⟨state, after, hrun⟩ := hgives
  intro other
  rw [h.eq other state, hrun]

theorem AlwaysGives.mayGive [Nonempty σ] {a : α} (h : AlwaysGives x a) : MayGive x a := by
  obtain ⟨state⟩ := ‹Nonempty σ›
  exact ⟨state, (x state).2, Prod.ext (h state) rfl⟩

theorem AlwaysGives.not_mayFail {a : α} (h : AlwaysGives x a) : ¬ MayFail x failure := by
  rintro ⟨state, after, hrun⟩
  cases (h state).symm.trans (congrArg Prod.fst hrun)

theorem alwaysGives_pure (a : α) : AlwaysGives (pure a : ExceptT Failure (StateM σ) α) a :=
  fun _ => rfl

theorem AlwaysGives.bind {a : α} {b : β} (hx : AlwaysGives x a) (hf : AlwaysGives (f a) b) :
    AlwaysGives (x >>= f) b := by
  intro state
  rw [Act.bind_run_ok (Prod.ext (hx state) rfl)]
  exact hf _

theorem AlwaysGives.unique [Nonempty σ] {a b : α} (ha : AlwaysGives x a) (hb : AlwaysGives x b) :
    a = b := by
  obtain ⟨state⟩ := ‹Nonempty σ›
  exact Except.ok.inj ((ha state).symm.trans (hb state))

theorem AlwaysGives.not_alwaysFails [Nonempty σ] {a : α} (h : AlwaysGives x a) :
    ¬ AlwaysFails x failure := by
  obtain ⟨state⟩ := ‹Nonempty σ›
  intro hfails
  cases (h state).symm.trans (hfails state)

/-- A computation that neither fails nor answers yes always answers no. -/
theorem alwaysGives_false {x : ExceptT Failure (StateM σ) Bool}
    (hfails : ∀ failure, ¬ MayFail x failure) (htrue : ¬ MayGive x true) :
    AlwaysGives x false := by
  intro state
  rcases hrun : x state with ⟨failure | answer, after⟩
  · exact absurd ⟨state, after, hrun⟩ (hfails failure)
  · cases answer with
    | true => exact absurd ⟨state, after, hrun⟩ htrue
    | false => rfl

theorem steady_pure (a : α) : Steady (pure a : ExceptT Failure (StateM σ) α) :=
  ⟨.ok a, fun _ => rfl⟩

theorem steady_throw (failure : Failure) :
    Steady (throw failure : ExceptT Failure (StateM σ) α) := ⟨.error failure, fun _ => rfl⟩

/-- A sequence is steady when its first part is, and its second part is for every answer. -/
theorem Steady.bind [Nonempty σ] (hx : Steady x) (hf : ∀ a, MayGive x a → Steady (f a)) :
    Steady (x >>= f) := by
  obtain ⟨outcome, hx⟩ := hx
  cases outcome with
  | error failure =>
    refine ⟨.error failure, fun state => ?_⟩
    rw [Act.bind_run_error (Prod.ext (hx state) rfl)]
  | ok a =>
    obtain ⟨state⟩ := ‹Nonempty σ›
    obtain ⟨outcome, hf⟩ := hf a ⟨state, (x state).2, Prod.ext (hx state) rfl⟩
    refine ⟨outcome, fun state => ?_⟩
    rw [Act.bind_run_ok (Prod.ext (hx state) rfl)]
    exact hf (x state).2

/-- A sequence that goes on with the outcome `tried` of a steady computation. -/
theorem Steady.bind_tried [Nonempty σ] {tried : ExceptT Failure (StateM σ) (Except Failure α)}
    {g : Except Failure α → ExceptT Failure (StateM σ) β}
    (htried : ∀ state, tried state = (.ok (x state).1, (x state).2)) (hx : Steady x)
    (hok : ∀ a, MayGive x a → Steady (g (.ok a)))
    (herror : ∀ failure, Steady (g (.error failure))) :
    Steady (tried >>= g) := by
  have hsteady : Steady tried := by
    obtain ⟨outcome, hx⟩ := hx
    exact ⟨.ok outcome, fun state => by rw [htried, hx]⟩
  refine hsteady.bind fun outcome hgiven => ?_
  obtain ⟨state, after, hrun⟩ := hgiven
  rw [htried] at hrun
  obtain ⟨hgiven, -⟩ := Prod.mk.inj hrun
  cases outcome with
  | ok a => exact hok a ⟨state, (x state).2, Prod.ext (Except.ok.inj hgiven) rfl⟩
  | error failure => exact herror failure

end Outcomes

variable {α β : Type} {failure : Failure}

theorem MayFail.eq_of_ofExcept {x : Except Failure α} (h : MayFail (Probe.ofExcept x) failure) :
    x = .error failure := by
  obtain ⟨counts, after, h⟩ := h
  exact (Prod.mk.inj h).1

theorem MayFail.of_probe {x : Probe α} (h : MayFail (Act.probe x) failure) : MayFail x failure := by
  obtain ⟨activity, after, h⟩ := h
  exact ⟨activity.counts, (x activity.counts).2, Prod.ext (Prod.mk.inj h).1 rfl⟩

theorem MayGive.of_probe {x : Probe α} {a : α} (h : MayGive (Act.probe x) a) : MayGive x a := by
  obtain ⟨activity, after, h⟩ := h
  exact ⟨activity.counts, (x activity.counts).2, Prod.ext (Prod.mk.inj h).1 rfl⟩

theorem MayFail.cases_of_probe_attempt {x : Probe α} {g : Except Failure α → Probe β}
    (h : MayFail (x.attempt >>= g) failure) :
    (∃ a, MayGive x a ∧ MayFail (g (.ok a)) failure) ∨
      ∃ raised, MayFail x raised ∧ MayFail (g (.error raised)) failure :=
  h.cases_of_tried fun _ => rfl

theorem MayGive.cases_of_probe_attempt {x : Probe α} {g : Except Failure α → Probe β} {b : β}
    (h : MayGive (x.attempt >>= g) b) :
    (∃ a, MayGive x a ∧ MayGive (g (.ok a)) b) ∨
      ∃ raised, MayFail x raised ∧ MayGive (g (.error raised)) b :=
  h.cases_of_tried fun _ => rfl

theorem MayFail.cases_of_attempt {x : Act α} {g : Except Failure α → Act β}
    (h : MayFail (Act.attempt x >>= g) failure) :
    (∃ a, MayGive x a ∧ MayFail (g (.ok a)) failure) ∨
      ∃ raised, MayFail x raised ∧ MayFail (g (.error raised)) failure :=
  h.cases_of_tried fun _ => rfl

theorem steady_ofExcept (x : Except Failure α) : Steady (Probe.ofExcept x) := ⟨x, fun _ => rfl⟩

theorem Steady.probe {x : Probe α} (hx : Steady x) : Steady (Act.probe x) := by
  obtain ⟨outcome, hx⟩ := hx
  exact ⟨outcome, fun activity => hx activity.counts⟩

theorem Steady.probe_attempt_bind {x : Probe α} {g : Except Failure α → Probe β} (hx : Steady x)
    (hok : ∀ a, MayGive x a → Steady (g (.ok a)))
    (herror : ∀ failure, Steady (g (.error failure))) :
    Steady (x.attempt >>= g) := hx.bind_tried (fun _ => rfl) hok herror

theorem Steady.attempt_bind {x : Act α} {g : Except Failure α → Act β} (hx : Steady x)
    (hok : ∀ a, MayGive x a → Steady (g (.ok a)))
    (herror : ∀ failure, Steady (g (.error failure))) :
    Steady (Act.attempt x >>= g) := by
  have : Nonempty Activity := ⟨{}⟩
  exact hx.bind_tried (fun _ => rfl) hok herror

end BoundUpdate
