import BoundUpdate.Failure.Basic

namespace BoundUpdate

/-!
# Outcomes in sequence

A sequence of steps gives a result only if each of its steps does.
-/

@[simp]
theorem except_ok_bind {ε α β : Type} (a : α) (f : α → Except ε β) :
    ((Except.ok a : Except ε α) >>= f) = f a := rfl

/-- Two sequences that start alike agree if they agree behind what their first part gives. -/
theorem except_bind_congr {ε α β : Type} {x : Except ε α} {f g : α → Except ε β}
    (h : ∀ a, x = .ok a → f a = g a) : (x >>= f) = (x >>= g) := by
  cases x with
  | error e => rfl
  | ok a => exact h a rfl

theorem except_bind_ok {ε α β : Type} {x : Except ε α} {f : α → Except ε β} {b : β}
    (h : (x >>= f) = .ok b) : ∃ a, x = .ok a ∧ f a = .ok b := by
  cases x with
  | error e => cases h
  | ok a => exact ⟨a, rfl, h⟩

/-- A failure of a sequence is that of its first part or of what follows it. -/
theorem except_bind_error {ε α β : Type} {x : Except ε α} {f : α → Except ε β} {e : ε}
    (h : (x >>= f) = .error e) : x = .error e ∨ ∃ a, x = .ok a ∧ f a = .error e := by
  cases x with
  | error other => exact .inl (congrArg Except.error (Except.error.inj h))
  | ok a => exact .inr ⟨a, rfl, h⟩

theorem exists_bind_eq_ok_iff {ε α β : Type} {x : Except ε α} {f : α → Except ε β} :
    (∃ b, (x >>= f) = .ok b) ↔ ∃ a, x = .ok a ∧ ∃ b, f a = .ok b := by
  constructor
  · rintro ⟨b, h⟩
    obtain ⟨a, ha, h⟩ := except_bind_ok h
    exact ⟨a, ha, b, h⟩
  · rintro ⟨a, rfl, b, h⟩
    exact ⟨b, h⟩

theorem exists_of_isOk {ε α : Type} {x : Except ε α} (h : x.isOk = true) : ∃ a, x = .ok a := by
  cases x with
  | error e => cases h
  | ok a => exact ⟨a, rfl⟩

theorem except_map_ok {ε α β : Type} {x : Except ε α} {f : α → β} {b : β}
    (h : x.map f = .ok b) : ∃ a, x = .ok a ∧ f a = b := by
  cases x with
  | error e => cases h
  | ok a => exact ⟨a, rfl, by injection h⟩

theorem except_map_error {ε α β : Type} {x : Except ε α} {f : α → β} {e : ε}
    (h : x.map f = .error e) : x = .error e := by
  cases x with
  | error other => exact congrArg Except.error (Except.error.inj h)
  | ok a => cases h

section Reported

/-!
## Reported failures

Unusable settings are reported by a failure of configuration.  A sequence of
steps reports its failures if each step that is reached does.  Most steps report
all their failures or none of them; one that reports none fails without a report
unless it gives a result.
-/

variable {α β : Type} {x : Except Failure α} {f : α → Except Failure β}

/-- Whether a failure, if there is one, is reported as a failure of configuration. -/
def Reported (x : Except Failure α) : Prop :=
  ∀ failure, x = .error failure → failure.kind = .configuration

/-- Whether a failure, if there is one, is not reported. -/
def NeverReported (x : Except Failure α) : Prop :=
  ∀ failure, x = .error failure → failure.kind ≠ .configuration

theorem reported_ok (a : α) : Reported (.ok a) := fun _ h => nomatch h

theorem reported_error_iff {failure : Failure} :
    Reported (.error failure : Except Failure α) ↔ failure.kind = .configuration := by
  constructor
  · exact fun h => h failure rfl
  · rintro h _ ⟨⟩
    exact h

/-- A sequence reports its failures if its first step does, and the rest does behind every result
of that step. -/
theorem reported_bind_iff :
    Reported (x >>= f) ↔ Reported x ∧ ∀ a, x = .ok a → Reported (f a) := by
  cases x with
  | error failure =>
    refine ⟨fun h => ⟨reported_error_iff.2 (h failure rfl), fun _ ha => nomatch ha⟩, fun h => ?_⟩
    exact reported_error_iff.2 (h.1 failure rfl)
  | ok a =>
    refine ⟨fun h => ⟨reported_ok a, ?_⟩, fun h => h.2 a rfl⟩
    rintro _ ⟨⟩
    exact h

/-- The kind of a failure, if there is one. -/
def failureKind? (x : Except Failure α) : Option FailureKind :=
  match x with
  | .ok _ => none
  | .error failure => some failure.kind

theorem not_reported_of_failureKind? {kind : FailureKind} (h : failureKind? x = some kind)
    (hkind : kind ≠ .configuration) : ¬ Reported x := by
  cases x with
  | ok a => cases h
  | error failure =>
    cases h
    exact fun hreported => hkind (reported_error_iff.1 hreported)

theorem neverReported_ok (a : α) : NeverReported (.ok a) := fun _ h => nomatch h

theorem neverReported_error {failure : Failure} (h : failure.kind ≠ .configuration) :
    NeverReported (.error failure : Except Failure α) := by
  rintro _ ⟨⟩
  exact h

theorem NeverReported.bind (hx : NeverReported x) (hf : ∀ a, x = .ok a → NeverReported (f a)) :
    NeverReported (x >>= f) := by
  cases x with
  | error failure => exact neverReported_error (hx failure rfl)
  | ok a => exact hf a rfl

theorem NeverReported.map {g : α → β} (hx : NeverReported x) : NeverReported (x.map g) := by
  cases x with
  | error failure => exact neverReported_error (hx failure rfl)
  | ok a => exact neverReported_ok _

/-- What reports no failure must give a result. -/
theorem NeverReported.reported_iff (hx : NeverReported x) : Reported x ↔ ∃ a, x = .ok a := by
  cases x with
  | error failure =>
    exact iff_of_false (fun h => hx failure rfl (h failure rfl)) fun ⟨_, h⟩ => nomatch h
  | ok a => exact iff_of_true (reported_ok a) ⟨a, rfl⟩

end Reported

end BoundUpdate
