import BoundUpdate.Proofs.Activity.Running

namespace BoundUpdate

/-!
# Parallel runs

Two activities run side by side, each on traces of its own.  Drivers answer
alike on both sides as long as the surroundings are the same and as many
statements were sent.  The runs are parallel when they write the same records,
and end in the same failure or with related answers; sequences of parallel runs
are parallel.
-/

/-- Two outcomes are the same failure, or related answers. -/
inductive EndAlike {α β : Type} (R : α → β → Prop) : Except Failure α → Except Failure β → Prop
  | ok {a : α} {b : β} : R a b → EndAlike R (.ok a) (.ok b)
  | error {failure : Failure} : EndAlike R (.error failure) (.error failure)

theorem endAlike_refl {α : Type} (outcome : Except Failure α) : EndAlike Eq outcome outcome := by
  cases outcome with
  | ok a => exact .ok rfl
  | error failure => exact .error

theorem EndAlike.eq {α : Type} {outcome outcome' : Except Failure α}
    (h : EndAlike Eq outcome outcome') : outcome = outcome' := by
  cases h with
  | ok hsame => rw [hsame]
  | error => rfl

/-- Drivers answer alike on two traces. -/
structure Activity.AnsweredAlike (activity activity' : Activity) : Prop where
  sent : activity.sent = activity'.sent
  surroundings : activity.surroundings = activity'.surroundings

namespace Act

/-- Two activities, run where drivers answer alike, write the same records and end alike. -/
def Parallel {α β : Type} (R : α → β → Prop) (x : Act α) (y : Act β) : Prop :=
  ∀ ⦃activity activity' : Activity⦄, activity.AnsweredAlike activity' →
    ∃ records, (x activity).2.journal = activity.journal ++ records ∧
      (y activity').2.journal = activity'.journal ++ records ∧
      (x activity).2.AnsweredAlike (y activity').2 ∧ EndAlike R (x activity).1 (y activity').1

section Parallel

variable {α β γ δ : Type} {R : α → β → Prop} {S : γ → δ → Prop} {x : Act α} {y : Act β}
  {f : α → Act γ} {g : β → Act δ}

/-- Activities that write nothing and send nothing are parallel if they end alike. -/
theorem parallel_of_silent
    (hx : ∀ activity, (x activity).2.journal = activity.journal ∧
      (x activity).2.AnsweredAlike activity)
    (hy : ∀ activity, (y activity).2.journal = activity.journal ∧
      (y activity).2.AnsweredAlike activity)
    (hend : ∀ {activity activity'}, activity.AnsweredAlike activity' →
      EndAlike R (x activity).1 (y activity').1) : Parallel R x y := by
  intro activity activity' hsame
  obtain ⟨hjournal, hafter⟩ := hx activity
  obtain ⟨hjournal', hafter'⟩ := hy activity'
  refine ⟨[], ?_, ?_, ⟨?_, ?_⟩, hend hsame⟩
  · rw [hjournal, List.append_nil]
  · rw [hjournal', List.append_nil]
  · rw [hafter.sent, hafter'.sent, hsame.sent]
  · rw [hafter.surroundings, hafter'.surroundings, hsame.surroundings]

theorem parallel_ofExcept {outcome : Except Failure α} {outcome' : Except Failure β}
    (h : EndAlike R outcome outcome') : Parallel R (ofExcept outcome) (ofExcept outcome') :=
  parallel_of_silent (fun _ => ⟨rfl, rfl, rfl⟩) (fun _ => ⟨rfl, rfl, rfl⟩) fun _ => h

theorem parallel_pure {a : α} {b : β} (h : R a b) :
    Parallel R (pure a : Act α) (pure b : Act β) := parallel_ofExcept (.ok h)

theorem parallel_throw (failure : Failure) :
    Parallel R (throw failure : Act α) (throw failure : Act β) := parallel_ofExcept .error

theorem parallel_observe (event event' : Event) : Parallel Eq (observe event) (observe event') :=
  parallel_of_silent (fun _ => ⟨rfl, rfl, rfl⟩) (fun _ => ⟨rfl, rfl, rfl⟩) fun _ => .ok rfl

theorem parallel_surroundings : Parallel Eq surroundings surroundings :=
  parallel_of_silent (fun _ => ⟨rfl, rfl, rfl⟩) (fun _ => ⟨rfl, rfl, rfl⟩)
    fun hsame => .ok hsame.surroundings

theorem parallel_note (level : Level) (origin : Origin) (message : String) :
    Parallel Eq (note level origin message) (note level origin message) :=
  fun _ _ hsame => ⟨_, rfl, rfl, ⟨hsame.sent, hsame.surroundings⟩, .ok rfl⟩

theorem Parallel.bind (hx : Parallel R x y) (hf : ∀ {a b}, R a b → Parallel S (f a) (g b)) :
    Parallel S (x >>= f) (y >>= g) := by
  intro activity activity' hsame
  obtain ⟨records, hjournal, hjournal', hafter, hend⟩ := hx hsame
  rcases hrun : x activity with ⟨outcome, between⟩
  rcases hrun' : y activity' with ⟨outcome', between'⟩
  rw [hrun] at hjournal hafter hend
  rw [hrun'] at hjournal' hafter hend
  cases hend with
  | error =>
    rw [bind_run_error hrun, bind_run_error hrun']
    exact ⟨records, hjournal, hjournal', hafter, .error⟩
  | ok hrelated =>
    rw [bind_run_ok hrun, bind_run_ok hrun']
    obtain ⟨more, hmore, hmore', hended⟩ := hf hrelated hafter
    refine ⟨records ++ more, ?_, ?_, hended⟩
    · rw [hmore, hjournal, List.append_assoc]
    · rw [hmore', hjournal', List.append_assoc]

/-- What follows the same answer may go on with it in two ways. -/
theorem Parallel.bind_eq {y : Act α} {g : α → Act δ} (hx : Parallel Eq x y)
    (hf : ∀ a, Parallel S (f a) (g a)) : Parallel S (x >>= f) (y >>= g) :=
  hx.bind fun hsame => hsame ▸ hf _

theorem Parallel.attempt (hx : Parallel R x y) : Parallel (EndAlike R) (attempt x) (attempt y) := by
  intro activity activity' hsame
  obtain ⟨records, hjournal, hjournal', hafter, hend⟩ := hx hsame
  exact ⟨records, hjournal, hjournal', hafter, .ok hend⟩

theorem Parallel.ensuring {last last' : Act Unit} (hx : Parallel R x y)
    (hlast : Parallel Eq last last') : Parallel R (ensuring x last) (ensuring y last') :=
  hx.attempt.bind fun hend => hlast.bind_eq fun _ => parallel_ofExcept hend

end Parallel

end Act
end BoundUpdate
