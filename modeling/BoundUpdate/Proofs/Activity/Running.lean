import BoundUpdate.Activity.Basic
import Mathlib.Tactic.Common

namespace BoundUpdate
namespace Act

/-!
# Running activities

A sequence of activities runs its second part only when the first one did not
fail, on the traces that the first one left; probes are run in the same way, on
the counts.  An activity that makes nothing observable leaves the events as they
were; sequences of such activities do so, too.
-/

section Sequence

variable {σ α β : Type} {x : ExceptT Failure (StateM σ) α} {f : α → ExceptT Failure (StateM σ) β}
  {state between after : σ}

theorem bind_run_ok {a : α} (h : x state = (.ok a, between)) : (x >>= f) state = f a between := by
  show (ExceptT.bindCont f (x state).1) (x state).2 = f a between
  rw [h]
  rfl

theorem bind_run_error {failure : Failure} (h : x state = (.error failure, after)) :
    (x >>= f) state = (.error failure, after) := by
  show (ExceptT.bindCont f (x state).1) (x state).2 = (.error failure, after)
  rw [h]
  rfl

theorem exists_ok_of_isOk (h : (x state).1.isOk = true) : ∃ a after, x state = (.ok a, after) := by
  rcases hx : x state with ⟨failure | a, after⟩
  · rw [hx] at h
    cases h
  · exact ⟨a, after, rfl⟩

/-- A test that what a computation gives passes. -/
theorem exists_ok_of_any {p : α → Bool} (h : (x state).1.toOption.any p = true) :
    ∃ a after, x state = (.ok a, after) ∧ p a = true := by
  rcases hx : x state with ⟨failure | a, after⟩
  · rw [hx] at h
    cases h
  · rw [hx] at h
    exact ⟨a, after, rfl, h⟩

/-- What a sequence gives, its second part gives on what the first part left. -/
theorem exists_of_bind_run_ok {b : β} (h : (x >>= f) state = (.ok b, after)) :
    ∃ a between, x state = (.ok a, between) ∧ f a between = (.ok b, after) := by
  rcases hx : x state with ⟨failure | a, between⟩
  · rw [bind_run_error hx] at h
    cases h
  · rw [bind_run_ok hx] at h
    exact ⟨a, between, rfl, h⟩

/-- A sequence fails in its first part or, on what that left, in its second part. -/
theorem bind_run_error_cases {failure : Failure} (h : (x >>= f) state = (.error failure, after)) :
    x state = (.error failure, after) ∨
      ∃ a between, x state = (.ok a, between) ∧ f a between = (.error failure, after) := by
  rcases hx : x state with ⟨failure' | a, between⟩
  · rw [bind_run_error hx] at h
    cases h
    exact .inl rfl
  · rw [bind_run_ok hx] at h
    exact .inr ⟨a, between, rfl, h⟩

/-- What follows without running anything changes the answer only. -/
theorem map_run (x : ExceptT Failure (StateM σ) α) (g : α → β) (state : σ) :
    (x >>= fun a => pure (g a)) state = ((x state).1.map g, (x state).2) := by
  rcases hx : x state with ⟨failure | a, between⟩
  · rw [bind_run_error hx]
    rfl
  · rw [bind_run_ok hx]
    rfl

end Sequence

variable {α β : Type} {x : Act α} {f : α → Act β}

theorem get_bind_run (f : Activity → Act α) (activity : Activity) :
    ((get : Act Activity) >>= f) activity = f activity activity := rfl

/-- Doing something in any case changes no outcome if it does not fail. -/
theorem ensuring_run {last : Act Unit} {before between after : Activity}
    {outcome : Except Failure α} (hx : x before = (outcome, between))
    (hlast : last between = (.ok (), after)) : ensuring x last before = (outcome, after) := by
  rw [ensuring, bind_run_ok (attempt_run _ _), hx]
  dsimp only
  rw [bind_run_ok hlast]
  rfl

/-! ## Events -/

/-- An activity makes nothing observable. -/
def KeepsEvents (x : Act α) : Prop := ∀ activity, (x activity).2.events = activity.events

theorem KeepsEvents.events_eq (h : KeepsEvents x) {activity after : Activity}
    {outcome : Except Failure α} (hrun : x activity = (outcome, after)) :
    after.events = activity.events := by
  have hevents := h activity
  rwa [hrun] at hevents

theorem keepsEvents_pure (a : α) : KeepsEvents (pure a : Act α) := fun _ => rfl

theorem keepsEvents_throw (failure : Failure) : KeepsEvents (throw failure : Act α) := fun _ => rfl

theorem keepsEvents_ofExcept (outcome : Except Failure α) : KeepsEvents (ofExcept outcome) :=
  fun _ => rfl

theorem keepsEvents_probe (x : Probe α) : KeepsEvents (probe x) := fun _ => rfl

theorem keepsEvents_note (level : Level) (origin : Origin) (message : String) :
    KeepsEvents (note level origin message) := fun _ => rfl

theorem KeepsEvents.attempt (h : KeepsEvents x) : KeepsEvents (attempt x) := h

theorem KeepsEvents.bind (hx : KeepsEvents x) (hf : ∀ a, KeepsEvents (f a)) :
    KeepsEvents (x >>= f) := by
  intro activity
  rcases hrun : x activity with ⟨failure | a, between⟩
  · rw [bind_run_error hrun]
    exact hx.events_eq hrun
  · rw [bind_run_ok hrun, hf a between]
    exact hx.events_eq hrun

theorem KeepsEvents.map (hx : KeepsEvents x) (g : α → β) :
    KeepsEvents (x >>= fun a => pure (g a)) := hx.bind fun a => keepsEvents_pure (g a)

theorem keepsEvents_get : KeepsEvents (get : Act Activity) := fun _ => rfl

theorem keepsEvents_modify {g : Activity → Activity} (h : ∀ activity, (g activity).events =
    activity.events) : KeepsEvents (modify g : Act Unit) := h

theorem keepsEvents_freshSerial : KeepsEvents freshSerial := fun _ => rfl

theorem keepsEvents_surroundings : KeepsEvents surroundings := fun _ => rfl

/-- All that an activity makes observable has a property. -/
def AddsOnly (P : Event → Prop) (x : Act α) : Prop :=
  ∀ activity, ∃ events, (x activity).2.events = activity.events ++ events ∧ ∀ e ∈ events, P e

section AddsOnly

variable {P : Event → Prop}

theorem KeepsEvents.addsOnly (h : KeepsEvents x) : AddsOnly P x :=
  fun activity => ⟨[], by rw [h activity, List.append_nil], fun _ he => nomatch he⟩

theorem addsOnly_observe {event : Event} (h : P event) : AddsOnly P (observe event) :=
  fun _ => ⟨[event], rfl, by simpa using h⟩

theorem AddsOnly.attempt (h : AddsOnly P x) : AddsOnly P (attempt x) := h

theorem AddsOnly.bind (hx : AddsOnly P x) (hf : ∀ a, AddsOnly P (f a)) :
    AddsOnly P (x >>= f) := by
  intro activity
  obtain ⟨events, hevents, hall⟩ := hx activity
  rcases hrun : x activity with ⟨failure | a, between⟩
  · rw [bind_run_error hrun]
    rw [hrun] at hevents
    exact ⟨events, hevents, hall⟩
  · rw [bind_run_ok hrun]
    rw [hrun] at hevents
    obtain ⟨others, hothers, hall'⟩ := hf a between
    refine ⟨events ++ others, ?_, List.forall_mem_append.2 ⟨hall, hall'⟩⟩
    rw [hothers, hevents, List.append_assoc]

theorem AddsOnly.ensuring {last : Act Unit} (hx : AddsOnly P x) (hlast : AddsOnly P last) :
    AddsOnly P (ensuring x last) :=
  hx.attempt.bind fun outcome => hlast.bind fun _ => (keepsEvents_ofExcept outcome).addsOnly

end AddsOnly

/-! ## Counts -/

/-- Unless it fails, an activity leaves nothing behind but counts. -/
def CountsOnly (x : Act α) : Prop :=
  ∀ ⦃activity after : Activity⦄ ⦃a : α⦄, x activity = (.ok a, after) →
    ∃ counts, after = { activity with counts }

theorem countsOnly_pure (a : α) : CountsOnly (pure a : Act α) := by
  intro activity after _ h
  cases h
  exact ⟨activity.counts, rfl⟩

theorem countsOnly_throw (failure : Failure) : CountsOnly (throw failure : Act α) :=
  fun _ _ _ h => nomatch h

theorem countsOnly_probe (x : Probe α) : CountsOnly (probe x) :=
  fun _ _ _ h => ⟨_, (Prod.mk.inj h).2.symm⟩

theorem CountsOnly.bind (hx : CountsOnly x) (hf : ∀ a, CountsOnly (f a)) :
    CountsOnly (x >>= f) := by
  intro activity after b h
  obtain ⟨a, between, hrun, hrest⟩ := exists_of_bind_run_ok h
  obtain ⟨counts, rfl⟩ := hx hrun
  obtain ⟨counts', rfl⟩ := hf a hrest
  exact ⟨counts', rfl⟩

/-- What is done before a failure does not matter. -/
theorem countsOnly_bind_throw (x : Act β) (failure : β → Failure) :
    CountsOnly (x >>= fun b => (throw (failure b) : Act α)) := by
  intro activity after a h
  obtain ⟨b, between, -, hthrow⟩ := exists_of_bind_run_ok h
  cases hthrow

end Act
end BoundUpdate
