import BoundUpdate.Proofs.Activity.Running
import BoundUpdate.Settings.Active

namespace BoundUpdate
namespace Settings

/-!
# Overrides in nested blocks

Settings may be replaced, and a database may be chosen, until further notice or
for the length of a block.  A program is made of such changes and blocks and of
steps that leave the overrides alone, each of which may fail.

What is in force at a point of a program is told by what it has done so far: the
latest override that was put in force in no block that has been left since.  The
overrides of a run are compared with this reading of its marks, by induction on
the program; a block gives back what it found, however it is left.
-/

/-! ## Overrides of an activity -/

/-- What an override stands in place of: the loaded settings, or the default database. -/
inductive Replaced where
  | settings
  | database
  deriving DecidableEq

/-- What an override stands in place of. -/
def Override.replaced : Override → Replaced
  | .settings _ => .settings
  | .database _ => .database

/-- The override that is in force. -/
def overrideIn (activity : Activity) : Replaced → Override
  | .settings => .settings activity.replacement
  | .database => .database activity.databaseKey

/-- The same traces with an override in force. -/
def Override.putIn (override : Override) (activity : Activity) : Activity :=
  match override with
  | .settings replacement => { activity with replacement }
  | .database databaseKey => { activity with databaseKey }

variable {activity before : Activity} {override : Override} {kind : Replaced}

@[simp]
theorem replaced_overrideIn (activity : Activity) (kind : Replaced) :
    (overrideIn activity kind).replaced = kind := by
  cases kind <;> rfl

theorem overrideIn_putIn_self (override : Override) (activity : Activity) :
    overrideIn (override.putIn activity) override.replaced = override := by
  cases override <;> rfl

theorem overrideIn_putIn_of_ne (h : override.replaced ≠ kind) (activity : Activity) :
    overrideIn (override.putIn activity) kind = overrideIn activity kind := by
  cases override <;> cases kind <;> first | rfl | exact absurd rfl h

/-- What was in force and is put back is in force again. -/
theorem overrideIn_putIn_overrideIn (before activity : Activity) (kind : Replaced) :
    overrideIn ((overrideIn before kind).putIn activity) kind = overrideIn before kind := by
  cases kind <;> rfl

theorem apply_run (override : Override) (activity : Activity) :
    override.apply activity = (.ok (), override.putIn activity) := by
  cases override <;> rfl

theorem enter_run (override : Override) (activity : Activity) :
    override.enter activity =
      (.ok (overrideIn activity override.replaced), override.putIn activity) := by
  cases override <;> rfl

/-- Work under an override has the outcome that it has with the override in force, and leaves behind
what it leaves with the former override put back. -/
theorem during_run {α : Type} (override : Override) (x : Act α) (activity : Activity) :
    override.during x activity = ((x (override.putIn activity)).1,
      (overrideIn activity override.replaced).putIn (x (override.putIn activity)).2) := by
  rw [Override.during, Act.bind_run_ok (enter_run override activity)]
  exact Act.ensuring_run rfl (apply_run _ _)

/-! ## Programs -/

/-- An activity leaves both overrides as they were. -/
def KeepsOverrides (x : Act Unit) : Prop :=
  ∀ activity kind, overrideIn (x activity).2 kind = overrideIn activity kind

/-- A program that works with overrides. -/
inductive Program where
  /-- Something that leaves the overrides alone and may fail. -/
  | step (x : Act Unit) (keeps : KeepsOverrides x)
  /-- Put an override in force until further notice. -/
  | change (override : Override)
  | sequence (first second : Program)
  /-- Work under an override. -/
  | block (override : Override) (body : Program)
  /-- Do something else when the first part fails. -/
  | recover (body handler : Program)

namespace Program

/-- Run a program. -/
def run : Program → Act Unit
  | .step x _ => x
  | .change override => override.apply
  | .sequence first second => do
    first.run
    second.run
  | .block override body => override.during body.run
  | .recover body handler => do
    match ← Act.attempt body.run with
    | .ok _ => return ()
    | .error _ => handler.run

end Program

/-- What a program does to the overrides. -/
inductive Mark where
  | entered (override : Override)
  | changed (override : Override)
  | left (kind : Replaced)

namespace Program

/-- The marks of a run, whether it fails or not. -/
def marks : Program → Activity → List Mark
  | .step _ _, _ => []
  | .change override, _ => [.changed override]
  | .sequence first second, activity =>
    match first.run activity with
    | (.ok _, between) => first.marks activity ++ second.marks between
    | (.error _, _) => first.marks activity
  | .block override body, activity =>
    .entered override :: (body.marks (override.putIn activity) ++ [.left override.replaced])
  | .recover body handler, activity =>
    match body.run activity with
    | (.ok _, _) => body.marks activity
    | (.error _, between) => body.marks activity ++ handler.marks between

end Program

/-- The points of a run: a program that starts on some traces comes to a point where it has made
some marks and the traces are others. -/
inductive Reaches : Program → Activity → List Mark → Activity → Prop
  | start (p : Program) (activity : Activity) : Reaches p activity [] activity
  | finish (p : Program) (activity : Activity) :
      Reaches p activity (p.marks activity) (p.run activity).2
  | first {p : Program} (q : Program) {activity now : Activity} {marks : List Mark} :
      Reaches p activity marks now → Reaches (.sequence p q) activity marks now
  | second {p q : Program} {activity between now : Activity} {marks : List Mark} :
      p.run activity = (.ok (), between) → Reaches q between marks now →
      Reaches (.sequence p q) activity (p.marks activity ++ marks) now
  | inside {override : Override} {p : Program} {activity now : Activity} {marks : List Mark} :
      Reaches p (override.putIn activity) marks now →
      Reaches (.block override p) activity (.entered override :: marks) now
  | tried {p : Program} (q : Program) {activity now : Activity} {marks : List Mark} :
      Reaches p activity marks now → Reaches (.recover p q) activity marks now
  | handled {p q : Program} {activity between now : Activity} {failure : Failure}
      {marks : List Mark} :
      p.run activity = (.error failure, between) → Reaches q between marks now →
      Reaches (.recover p q) activity (p.marks activity ++ marks) now

/-! ## What marks leave in force -/

/-- The latest override of a kind that stands, in marks of which the latest comes first.  Of the
blocks that are still to be found, `left` many have been left; what was put in force in one of them
does not stand. -/
def standing? (kind : Replaced) : Nat → List Mark → Option Override
  | _, [] => none
  | left, .left other :: earlier =>
    standing? kind (if other = kind then left + 1 else left) earlier
  | 0, .changed override :: earlier =>
    if override.replaced = kind then some override else standing? kind 0 earlier
  | left + 1, .changed _ :: earlier => standing? kind (left + 1) earlier
  | 0, .entered override :: earlier =>
    if override.replaced = kind then some override else standing? kind 0 earlier
  | left + 1, .entered override :: earlier =>
    standing? kind (if override.replaced = kind then left else left + 1) earlier

/-- The override in force behind some marks: the latest one that stands, or else the one before. -/
def inForce (kind : Replaced) (before : Override) (marks : List Mark) : Override :=
  (standing? kind 0 marks.reverse).getD before

/-- In a block that has been left nothing stands, and all blocks of a run have been left. -/
theorem standing?_marks_left (p : Program) (left : Nat) (activity : Activity)
    (earlier : List Mark) :
    standing? kind (left + 1) ((p.marks activity).reverse ++ earlier) =
      standing? kind (left + 1) earlier := by
  induction p generalizing left activity earlier with
  | step x keeps => rfl
  | change override => rfl
  | sequence first second ihFirst ihSecond =>
    simp only [Program.marks]
    rcases first.run activity with ⟨failure | _, between⟩
    · exact ihFirst left activity earlier
    · rw [List.reverse_append, List.append_assoc, ihSecond, ihFirst]
  | block override body ih =>
    simp only [Program.marks, List.reverse_cons, List.reverse_append, List.reverse_nil,
      List.nil_append, List.cons_append, List.append_assoc, standing?]
    by_cases hkind : override.replaced = kind
    · rw [if_pos hkind, ih, standing?, if_pos hkind]
    · rw [if_neg hkind, ih, standing?, if_neg hkind]
  | recover body handler ihBody ihHandler =>
    simp only [Program.marks]
    rcases body.run activity with ⟨failure | _, between⟩
    · rw [List.reverse_append, List.append_assoc, ihHandler, ihBody]
    · exact ihBody left activity earlier

/-- The override of a kind that marks leave in force stands in some traces.  The latest mark comes
first, so that what a program does is put in front of what was done before it. -/
def Stands (kind : Replaced) (first : Override) (marks : List Mark) (activity : Activity) : Prop :=
  overrideIn activity kind = (standing? kind 0 marks).getD first

variable {first : Override} {earlier : List Mark}

/-- Putting an override in force, for a block or until further notice, makes it the one that
stands. -/
theorem Stands.putIn (h : Stands kind first earlier activity) (override : Override) :
    Stands kind first (.entered override :: earlier) (override.putIn activity) ∧
      Stands kind first (.changed override :: earlier) (override.putIn activity) := by
  unfold Stands standing?
  by_cases hkind : override.replaced = kind
  · subst hkind
    rw [if_pos rfl, overrideIn_putIn_self]
    exact ⟨rfl, rfl⟩
  · rw [if_neg hkind, overrideIn_putIn_of_ne hkind]
    exact ⟨h, h⟩

/-- Leaving a block puts back what stood when it was entered, and leaves the other override as the
block leaves it. -/
theorem Stands.leave {body : Program} {done : Activity} (override : Override)
    (h : Stands kind first earlier before)
    (hdone : Stands kind first
      ((body.marks (override.putIn before)).reverse ++ .entered override :: earlier) done) :
    Stands kind first (((Program.block override body).marks before).reverse ++ earlier)
      ((overrideIn before override.replaced).putIn done) := by
  simp only [Program.marks, List.reverse_cons, List.reverse_append, List.reverse_nil,
    List.nil_append, List.cons_append, List.append_assoc, Stands, standing?]
  by_cases hkind : override.replaced = kind
  · subst hkind
    rw [if_pos rfl, standing?_marks_left, standing?, if_pos rfl]
    rw [overrideIn_putIn_overrideIn]
    exact h
  · rw [if_neg hkind, overrideIn_putIn_of_ne (by rwa [replaced_overrideIn])]
    exact hdone

/-- What stands in front of a program and what its marks add to it stands behind it. -/
theorem Stands.run (h : Stands kind first earlier activity) (p : Program) :
    Stands kind first ((p.marks activity).reverse ++ earlier) (p.run activity).2 := by
  induction p generalizing activity earlier with
  | step x keeps => exact (keeps activity kind).trans h
  | change override =>
    rw [Program.run, apply_run]
    exact (h.putIn override).2
  | sequence p q ihp ihq =>
    have hp := ihp h
    simp only [Program.marks, Program.run]
    rcases hrun : p.run activity with ⟨failure | _, between⟩
    · rw [Act.bind_run_error hrun]
      rwa [hrun] at hp
    · rw [Act.bind_run_ok hrun, List.reverse_append, List.append_assoc]
      rw [hrun] at hp
      exact ihq hp
  | block override body ih =>
    rw [Program.run, during_run]
    exact h.leave override (ih (h.putIn override).1)
  | recover p q ihp ihq =>
    have hp := ihp h
    simp only [Program.marks, Program.run]
    rw [Act.bind_run_ok (Act.attempt_run p.run activity)]
    rcases hrun : p.run activity with ⟨failure | _, between⟩
    · rw [List.reverse_append, List.append_assoc]
      rw [hrun] at hp
      exact ihq hp
    · rwa [hrun] at hp

/-- At every point of a run stands what its marks so far have put in force. -/
theorem Stands.of_reaches (h : Stands kind first earlier activity) {p : Program}
    {marks : List Mark} {now : Activity} (hreaches : Reaches p activity marks now) :
    Stands kind first (marks.reverse ++ earlier) now := by
  induction hreaches generalizing earlier with
  | start p activity => exact h
  | finish p activity => exact h.run p
  | first q _ ih => exact ih h
  | @second p q activity between now marks hrun _ ih =>
    have hp := h.run p
    rw [hrun] at hp
    rw [List.reverse_append, List.append_assoc]
    exact ih hp
  | @inside override p activity now marks _ ih =>
    rw [List.reverse_cons, List.append_assoc]
    exact ih (h.putIn override).1
  | tried q _ ih => exact ih h
  | @handled p q activity between now failure marks hrun _ ih =>
    have hp := h.run p
    rw [hrun] at hp
    rw [List.reverse_append, List.append_assoc]
    exact ih hp

/-! ## Consulting settings and databases -/

theorem current_run_eq (activity : Activity) :
    current activity = match activity.replacement with
      | some held => (.ok held, activity)
      | none => loaded activity := by
  unfold current
  show (match activity.replacement with
    | some held => pure held
    | none => loaded : Act HeldSettings) activity = _
  cases activity.replacement <;> rfl

theorem requireCurrent_none_run (activity : Activity) :
    requireCurrent .none activity = (do
      let held ← current
      Act.ofExcept (held.settings.require activity.databaseKey)) activity := rfl

theorem overrideIn_loaded (activity : Activity) (kind : Replaced) :
    overrideIn (loaded activity).2 kind = overrideIn activity kind := by
  unfold loaded
  show overrideIn ((match activity.loaded.lookup (fingerprint activity.surroundings) with
    | some held => _
    | none => _ : Act HeldSettings) activity).2 kind = _
  cases activity.loaded.lookup (fingerprint activity.surroundings) with
  | some held => cases kind <;> rfl
  | none => cases hload : load activity.surroundings <;> cases kind <;> rfl

/-- Consulting the settings in force may load some, but leaves the overrides alone. -/
theorem keepsOverrides_current : KeepsOverrides (do let _ ← current; return ()) := by
  intro activity kind
  rw [Act.map_run, current_run_eq]
  cases activity.replacement with
  | some held => rfl
  | none => exact overrideIn_loaded activity kind

/-- Overrides nest.  Wherever a program is, each of the two overrides is the one that was put in
force latest, by a change or at the start of a block, in no block for that override that has been
left since.  The settings in force are those of the override, and the loaded ones only when it tells
none; a database that is not named is looked up in them under the name in the other override.
A block ends as what is done in it ends, whether that fails or not; it leaves the override that it
put in force exactly as it found it and touches nothing else. -/
theorem overrides_nest (p : Program) (activity : Activity) :
    (∀ marks now, Reaches p activity marks now →
      ∃ replacement key,
        inForce .settings (.settings activity.replacement) marks = .settings replacement ∧
        inForce .database (.database activity.databaseKey) marks = .database key ∧
        (current now = match replacement with
          | some held => (.ok held, now)
          | none => loaded now) ∧
        requireCurrent .none now = (do
          let held ← current
          Act.ofExcept (held.settings.require key)) now) ∧
    ∀ override body before,
      let within := body.run (override.putIn before)
      let left := (Program.block override body).run before
      left.1 = within.1 ∧
        overrideIn left.2 override.replaced = overrideIn before override.replaced ∧
        left.2 = (overrideIn before override.replaced).putIn within.2 := by
  refine ⟨fun marks now hreaches => ?_, fun override body before => ?_⟩
  · have hstart : ∀ kind, Stands kind (overrideIn activity kind) [] activity := fun _ => rfl
    have hsettings := (hstart .settings).of_reaches hreaches
    have hdatabase := (hstart .database).of_reaches hreaches
    rw [Stands, List.append_nil] at hsettings hdatabase
    exact ⟨now.replacement, now.databaseKey, hsettings.symm, hdatabase.symm,
      current_run_eq now, requireCurrent_none_run now⟩
  · intro within left
    have hleft : left =
        (within.1, (overrideIn before override.replaced).putIn within.2) :=
      during_run override body.run before
    rw [hleft]
    exact ⟨rfl, overrideIn_putIn_overrideIn _ _ _, rfl⟩

/-- A step that fails. -/
def failing (failure : Failure) : Program := .step (throw failure) fun _ _ => rfl

/-- A step that consults the settings in force. -/
def consulting : Program := .step _ keepsOverrides_current

/-- Settings that are put in force in a block for a database outlast that block and end with the
block for settings around it, although that fails; a database that is chosen there outlasts it. -/
theorem overrides_nest_in_failing_block :
    let outer : HeldSettings := { serial := 1, settings := {} }
    let inner : HeldSettings := { serial := 2, settings := {} }
    let failure : Failure := .raised .runtime "down"
    let choice : Program :=
      .block (.database (.text "a")) (.sequence (.change (.settings (some inner))) consulting)
    let body : Program :=
      .sequence choice (.sequence (.change (.database (.text "b"))) (failing failure))
    let p : Program := .block (.settings (some outer)) body
    let marks : List Mark := [.entered (.settings (some outer)), .entered (.database (.text "a")),
      .changed (.settings (some inner)), .left .database]
    (∃ now, Reaches p {} marks now ∧ current now = (.ok inner, now)) ∧
      (p.run {}).1 = .error failure ∧ overrideIn (p.run {}).2 .settings = .settings none ∧
        overrideIn (p.run {}).2 .database = .database (.text "b") := by
  intro outer inner failure choice body p marks
  have hreaches : Reaches p {} marks _ :=
    .inside (.first _ (.finish choice (Override.putIn (.settings (some outer)) {})))
  obtain ⟨replacement, key, hsettings, -, hcurrent, -⟩ := (overrides_nest p {}).1 _ _ hreaches
  cases hsettings
  obtain ⟨houtcome, hback, hleft⟩ := (overrides_nest p {}).2 (.settings (some outer)) body {}
  exact ⟨⟨_, hreaches, hcurrent⟩, houtcome, hback, congrArg (overrideIn · .database) hleft⟩

end Settings
end BoundUpdate
