import BoundUpdate.Proofs.Activity.Running
import BoundUpdate.Proofs.Association
import BoundUpdate.Proofs.Settings.Dependence
import BoundUpdate.Proofs.Settings.Loading

namespace BoundUpdate
namespace Settings

open Reference

/-!
# How settings in force follow the variables

While nothing replaces them, the settings in force are loaded from what is
around the library, or kept from an earlier load that had the same fingerprint.
The invariant is that every kept entry came from such a load.  A failed load is
never kept.  The fingerprint holds the variables with settings only, so settings
that refer to another variable, or whose files lie in a home directory that one
tells, lag behind it, and no others do.
-/

variable {earlier : List Surroundings} {activity : Activity} {held : HeldSettings}

/-! ## One consultation -/

theorem loaded_run_kept
    (h : activity.loaded.lookup (fingerprint activity.surroundings) = some held) :
    loaded activity = (.ok held, { activity with
      loaded := (fingerprint activity.surroundings, held) ::
        activity.loaded.filter fun entry => entry.1 != fingerprint activity.surroundings }) := by
  unfold loaded
  rw [Act.get_bind_run]
  simp only [h]
  rfl

theorem loaded_run_error {failure : Failure}
    (h : activity.loaded.lookup (fingerprint activity.surroundings) = none)
    (hload : load activity.surroundings = .error failure) :
    loaded activity = (.error failure, activity) := by
  unfold loaded
  rw [Act.get_bind_run]
  simp only [h, hload]
  rfl

theorem loaded_run_ok {settings : Settings}
    (h : activity.loaded.lookup (fingerprint activity.surroundings) = none)
    (hload : load activity.surroundings = .ok settings) :
    loaded activity =
      (.ok { serial := activity.nextSerial, settings }, { activity with
        nextSerial := activity.nextSerial + 1
        loaded := ((fingerprint activity.surroundings,
            { serial := activity.nextSerial, settings }) ::
          activity.loaded.filter fun entry =>
            entry.1 != fingerprint activity.surroundings).take keptLoads }) := by
  unfold loaded
  rw [Act.get_bind_run]
  simp only [h, hload]
  rfl

theorem current_run (h : activity.replacement = none) : current activity = loaded activity := by
  unfold current
  rw [Act.get_bind_run]
  simp only [h]

/-- Every kept entry came from a load in earlier surroundings with its fingerprint, which differ in
variables at most, and nothing replaces the loaded settings. -/
structure Kept (earlier : List Surroundings) (activity : Activity) : Prop where
  unreplaced : activity.replacement = none
  loads : ∀ entry ∈ activity.loaded, ∃ s ∈ earlier,
    fingerprint s = entry.1 ∧ load s = .ok entry.2.settings
  host : ∀ s ∈ earlier, SameHost s activity.surroundings

/-- What a consultation answers: a fresh load, or settings that were loaded in earlier surroundings
that differ in variables without settings at most. -/
def IsAnswer (earlier : List Surroundings) (now : Surroundings) (answer : Except Failure Settings) :
    Prop :=
  answer = load now ∨
    ∃ s ∈ earlier, SameSources s now ∧ ∃ settings, load s = .ok settings ∧ answer = .ok settings

/-- A consultation answers so and leaves only loads behind. -/
theorem Kept.current (h : Kept earlier activity) :
    IsAnswer earlier activity.surroundings ((current activity).1.map HeldSettings.settings) ∧
      (Settings.current activity).2.surroundings = activity.surroundings ∧
      Kept (activity.surroundings :: earlier) (Settings.current activity).2 := by
  rw [current_run h.unreplaced]
  have hhost : ∀ s ∈ activity.surroundings :: earlier, SameHost s activity.surroundings :=
    List.forall_mem_cons.2 ⟨rfl, h.host⟩
  have hothers : ∀ entry ∈ activity.loaded.filter fun entry =>
      entry.1 != fingerprint activity.surroundings,
      ∃ s ∈ activity.surroundings :: earlier,
        fingerprint s = entry.1 ∧ load s = .ok entry.2.settings := by
    intro entry hentry
    obtain ⟨s, hs, hload⟩ := h.loads entry (List.mem_of_mem_filter hentry)
    exact ⟨s, List.mem_cons_of_mem _ hs, hload⟩
  -- only the fingerprint is looked up, so a kept entry may come from other surroundings
  cases hlookup : activity.loaded.lookup (fingerprint activity.surroundings) with
  | some held =>
    rw [loaded_run_kept hlookup]
    obtain ⟨s, hs, hfingerprint, hload⟩ := h.loads _ (mem_of_lookup hlookup)
    have hsame : SameSources s activity.surroundings := ⟨hfingerprint, h.host s hs⟩
    have hheld := List.forall_mem_cons.2
      ⟨⟨s, List.mem_cons_of_mem _ hs, hfingerprint, hload⟩, hothers⟩
    exact ⟨.inr ⟨s, hs, hsame, _, hload, rfl⟩, rfl, h.unreplaced, hheld, hhost⟩
  | none =>
    cases hload : load activity.surroundings with
    | error failure =>
      rw [loaded_run_error hlookup hload]
      refine ⟨.inl ?_, rfl, h.unreplaced, fun entry hentry => ?_, hhost⟩
      · rw [hload]
        rfl
      · obtain ⟨s, hs, hentry⟩ := h.loads entry hentry
        exact ⟨s, List.mem_cons_of_mem _ hs, hentry⟩
    | ok settings =>
      -- the new entry is put in front, and the oldest one may fall out
      rw [loaded_run_ok hlookup hload]
      refine ⟨.inl ?_, rfl, h.unreplaced, fun entry hentry => ?_, hhost⟩
      · rw [hload]
        rfl
      · cases List.mem_cons.1 (List.mem_of_mem_take hentry) with
        | inl hnew => exact ⟨_, List.mem_cons_self, by rw [hnew], by rw [hnew]; exact hload⟩
        | inr hold => exact hothers entry hold

/-! ## Runs -/

/-- What happens while settings are in use. -/
inductive Step where
  | set (name value : String)
  | unset (name : String)
  | consult
  | reload

/-- What a step leaves behind. -/
def Step.after (activity : Activity) : Step → Activity
  | .set name value =>
    (Act.changeSurroundings (fun s => s.setVariable name value) activity).2
  | .unset name => (Act.changeSurroundings (fun s => s.unsetVariable name) activity).2
  | .consult => (current activity).2
  | .reload => (Settings.reload activity).2

/-- A consultation of the settings in force: what was around, what was around at the earlier
consultations since loaded settings were last forgotten, and the answer. -/
structure Consultation where
  now : Surroundings
  earlier : List Surroundings
  answer : Except Failure Settings

/-- The consultations of a run. -/
def consultations (earlier : List Surroundings) (activity : Activity) :
    List Step → List Consultation
  | [] => []
  | .consult :: rest =>
    { now := activity.surroundings, earlier,
      answer := (current activity).1.map HeldSettings.settings } ::
      consultations (activity.surroundings :: earlier) (Step.consult.after activity) rest
  | .reload :: rest => consultations [] (Step.reload.after activity) rest
  | step :: rest => consultations earlier (step.after activity) rest

/-- Variables that change leave everything else as it is. -/
theorem SameHost.withEnvironment {s t : Surroundings} (h : SameHost s t)
    (environment : List (String × String)) : SameHost s { t with environment } := by
  unfold SameHost at h ⊢
  exact congrArg (fun u : Surroundings => { u with environment }) h

theorem Kept.set (h : Kept earlier activity) (name value : String) :
    Kept earlier ((Step.set name value).after activity) :=
  ⟨h.unreplaced, h.loads, fun s hs => (h.host s hs).withEnvironment _⟩

theorem Kept.unset (h : Kept earlier activity) (name : String) :
    Kept earlier ((Step.unset name).after activity) :=
  ⟨h.unreplaced, h.loads, fun s hs => (h.host s hs).withEnvironment _⟩

theorem Kept.reload (h : Kept earlier activity) : Kept [] (Step.reload.after activity) :=
  ⟨h.unreplaced, (fun _ hentry => nomatch hentry), fun _ hs => nomatch hs⟩

/-- Every consultation of a run is answered by a fresh load or by a kept one. -/
theorem Kept.isAnswer_of_mem (h : Kept earlier activity) (steps : List Step) :
    ∀ c ∈ consultations earlier activity steps, IsAnswer c.earlier c.now c.answer := by
  induction steps generalizing earlier activity with
  | nil => exact fun _ hc => nomatch hc
  | cons step rest ih =>
    cases step with
    | set name value => exact ih (h.set name value)
    | unset name => exact ih (h.unset name)
    | reload => exact ih h.reload
    | consult =>
      obtain ⟨hanswer, -, hkept⟩ := h.current
      exact List.forall_mem_cons.2 ⟨hanswer, ih hkept⟩

/-- A kept load is as good as a fresh one where the variables that its texts refer to have not
changed, and neither has the home directory if it looked for one. -/
theorem IsAnswer.eq_load {now : Surroundings} {answer : Except Failure Settings}
    (h : IsAnswer earlier now answer)
    (hhome : ∀ s ∈ earlier, SameSources s now → LooksHome s →
      s.valueOf? Location.homeName = now.valueOf? Location.homeName)
    (hrefers : ∀ s ∈ earlier, SameSources s now → ∀ text ∈ searched s, ∀ name,
      Refers text name → isOwnVariable (String.ofList name) = false →
        valueOf s.environment name = valueOf now.environment name) :
    answer = load now := by
  obtain hfresh | ⟨s, hs, hsame, settings, hload, rfl⟩ := h
  · exact hfresh
  · rw [← load_congr hsame (hhome s hs hsame) (hrefers s hs hsame), hload]

/-- Whether a step changes no variable but those with settings. -/
def Step.ChangesOwn : Step → Prop
  | .set name _ => isOwnVariable name = true
  | .unset name => isOwnVariable name = true
  | _ => True

/-- Whether the variables without settings have the same values. -/
def SameOthers (s t : Surroundings) : Prop :=
  ∀ name, isOwnVariable name = false → s.valueOf? name = t.valueOf? name

theorem valueOf?_unsetVariable_of_ne {name n : String} (h : name ≠ n) (s : Surroundings) :
    (s.unsetVariable n).valueOf? name = s.valueOf? name := by
  rw [Surroundings.valueOf?, Surroundings.valueOf?, Surroundings.unsetVariable,
    lookup_eq_head?_filter, lookup_eq_head?_filter, List.filter_filter]
  congr 2
  refine List.filter_congr fun entry _ => ?_
  cases hname : entry.1 == name with
  | false => rfl
  | true => rw [eq_of_beq hname, Bool.true_and]; simpa using h

theorem valueOf?_setVariable_of_ne {name n : String} (h : name ≠ n) (s : Surroundings)
    (value : String) : (s.setVariable n value).valueOf? name = s.valueOf? name := by
  rw [← valueOf?_unsetVariable_of_ne h s, Surroundings.valueOf?, Surroundings.valueOf?,
    Surroundings.setVariable, Surroundings.assign, List.lookup_cons]
  have hne : (name == n) = false := by simpa using h
  rw [hne]
  rfl

theorem ne_of_isOwnVariable {name n : String} (hown : isOwnVariable n = true)
    (hname : isOwnVariable name = false) : name ≠ n := by
  rintro rfl
  rw [hown] at hname
  cases hname

theorem Step.ChangesOwn.sameOthers_after {step : Step} (h : step.ChangesOwn)
    (hkept : Kept earlier activity) :
    SameOthers activity.surroundings (step.after activity).surroundings := by
  intro name hname
  cases step with
  | set n value => exact (valueOf?_setVariable_of_ne (ne_of_isOwnVariable h hname) _ value).symm
  | unset n => exact (valueOf?_unsetVariable_of_ne (ne_of_isOwnVariable h hname) _).symm
  | consult => rw [Step.after, hkept.current.2.1]
  | reload => rfl

/-- In a run that changes no other variables they are at every consultation as they were at all
earlier ones. -/
theorem Kept.sameOthers_of_mem (h : Kept earlier activity) {steps : List Step}
    (hsteps : ∀ step ∈ steps, step.ChangesOwn)
    (hsame : ∀ s ∈ earlier, SameOthers s activity.surroundings) :
    ∀ c ∈ consultations earlier activity steps, ∀ s ∈ c.earlier, SameOthers s c.now := by
  induction steps generalizing earlier activity with
  | nil => exact fun _ hc => nomatch hc
  | cons step rest ih =>
    obtain ⟨hstep, hrest⟩ := List.forall_mem_cons.1 hsteps
    have hafter := hstep.sameOthers_after h
    have hsameAfter : ∀ s ∈ earlier, SameOthers s (step.after activity).surroundings :=
      fun s hs name hname => (hsame s hs name hname).trans (hafter name hname)
    cases step with
    | set name value => exact ih (h.set name value) hrest hsameAfter
    | unset name => exact ih (h.unset name) hrest hsameAfter
    | reload => exact ih h.reload hrest fun _ hs => nomatch hs
    | consult =>
      exact List.forall_mem_cons.2 ⟨hsame,
        ih h.current.2.2 hrest (List.forall_mem_cons.2 ⟨hafter, hsameAfter⟩)⟩

/-- Whether a step changes no variable with settings and forgets nothing. -/
def Step.LeavesOwn : Step → Prop
  | .set name _ => isOwnVariable name = false
  | .unset name => isOwnVariable name = false
  | .consult => True
  | .reload => False

theorem fingerprint_unsetVariable {n : String} (h : isOwnVariable n = false) (s : Surroundings) :
    fingerprint (s.unsetVariable n) = fingerprint s := by
  rw [fingerprint, fingerprint, Surroundings.unsetVariable, List.filter_filter]
  congr 1
  refine List.filter_congr fun entry _ => ?_
  cases hown : isOwnVariable entry.1 with
  | false => rfl
  | true => simpa using (ne_of_isOwnVariable hown h).symm

theorem fingerprint_setVariable {n : String} (h : isOwnVariable n = false) (s : Surroundings)
    (value : String) : fingerprint (s.setVariable n value) = fingerprint s := by
  rw [← fingerprint_unsetVariable h s, fingerprint, fingerprint, Surroundings.setVariable,
    Surroundings.assign, List.filter_cons_of_neg (by simp [h])]
  rfl

/-- Settings that are kept for the present fingerprint are answered until a variable with settings
changes or they are forgotten. -/
theorem answer_of_lookup (hreplacement : activity.replacement = none)
    (hlookup : activity.loaded.lookup (fingerprint activity.surroundings) = some held)
    {steps : List Step} (hsteps : ∀ step ∈ steps, step.LeavesOwn) :
    ∀ c ∈ consultations earlier activity steps, c.answer = .ok held.settings := by
  induction steps generalizing earlier activity with
  | nil => exact fun _ hc => nomatch hc
  | cons step rest ih =>
    obtain ⟨hstep, hrest⟩ := List.forall_mem_cons.1 hsteps
    cases step with
    | set name value =>
      have hsame := fingerprint_setVariable hstep activity.surroundings value
      exact ih hreplacement ((congrArg (activity.loaded.lookup ·) hsame).trans hlookup) hrest
    | unset name =>
      have hsame := fingerprint_unsetVariable hstep activity.surroundings
      exact ih hreplacement ((congrArg (activity.loaded.lookup ·) hsame).trans hlookup) hrest
    | reload => exact hstep.elim
    | consult =>
      have hrun := (current_run hreplacement).trans (loaded_run_kept hlookup)
      refine List.forall_mem_cons.2 ⟨by rw [hrun]; rfl, ih ?_ ?_ hrest⟩
      · rw [Step.after, hrun]
        exact hreplacement
      · rw [Step.after, hrun]
        exact List.lookup_cons_self

/-- What a first consultation loads is answered until a variable with settings changes or it is
forgotten. -/
theorem answer_of_first_load (hloaded : activity.loaded = [])
    (hreplacement : activity.replacement = none) {settings : Settings}
    (hload : load activity.surroundings = .ok settings) {steps : List Step}
    (hsteps : ∀ step ∈ steps, step.LeavesOwn) :
    ∀ c ∈ consultations earlier activity (.consult :: steps), c.answer = .ok settings := by
  have hlookup : activity.loaded.lookup (fingerprint activity.surroundings) = none := by
    rw [hloaded]
    rfl
  have hrun := (current_run hreplacement).trans (loaded_run_ok hlookup hload)
  refine List.forall_mem_cons.2 ⟨by rw [hrun]; rfl, ?_⟩
  have hafter : (Step.consult.after activity).loaded.lookup
      (fingerprint (Step.consult.after activity).surroundings) =
        some { serial := activity.nextSerial, settings } := by
    rw [Step.after, hrun]
    exact List.lookup_cons_self
  refine answer_of_lookup ?_ hafter hsteps
  rw [Step.after, hrun]
  exact hreplacement

/-- How far loaded settings follow the variables.  In every run that starts without loaded settings,
each consultation is answered by a fresh load, a failed one included, or by settings that were
loaded since the last time they were forgotten, in surroundings with the same variables with
settings.  Where the other variables that the texts of those loads refer to have not changed, and
neither has the variable with the home directory if those loads looked for it, the answer is that
of a fresh load; so it is throughout a run that changes only variables with settings.  Changes of
other variables alone are not followed: what was loaded first stays.  A fresh load is one from the
source that is chosen by the variables and the standard file at that moment. -/
theorem settings_follow_variables {activity : Activity} (hloaded : activity.loaded = [])
    (hreplacement : activity.replacement = none) (steps : List Step) :
    (∀ c ∈ consultations [] activity steps,
      IsAnswer c.earlier c.now c.answer ∧
      load c.now = loadFrom c.now (chosen c.now) ∧
      ((∀ s ∈ c.earlier, SameSources s c.now → LooksHome s →
          s.valueOf? Location.homeName = c.now.valueOf? Location.homeName) →
        (∀ s ∈ c.earlier, SameSources s c.now → ∀ text ∈ searched s, ∀ name, Refers text name →
          isOwnVariable (String.ofList name) = false →
            valueOf s.environment name = valueOf c.now.environment name) →
        c.answer = load c.now)) ∧
    ((∀ step ∈ steps, step.ChangesOwn) →
      ∀ c ∈ consultations [] activity steps, c.answer = load c.now) ∧
    ∀ settings, load activity.surroundings = .ok settings → (∀ step ∈ steps, step.LeavesOwn) →
      ∀ c ∈ consultations [] activity (.consult :: steps), c.answer = .ok settings := by
  have hkept : Kept [] activity :=
    ⟨hreplacement, by simp [hloaded], fun _ hs => nomatch hs⟩
  have hanswers := hkept.isAnswer_of_mem steps
  refine ⟨fun c hc => ⟨hanswers c hc, load_eq_loadFrom_chosen c.now, (hanswers c hc).eq_load⟩,
    fun hsteps c hc => ?_,
    fun settings hload hsteps => answer_of_first_load hloaded hreplacement hload hsteps⟩
  have hothers := hkept.sameOthers_of_mem hsteps (fun _ hs => nomatch hs) c hc
  refine (hanswers c hc).eq_load (fun s hs _ _ => hothers s hs _ (by decide))
    fun s hs _ text _ name _ hname => ?_
  have hother := hothers s hs _ hname
  rw [Surroundings.valueOf?, Surroundings.valueOf?] at hother
  rw [valueOf, valueOf, hother]

theorem exists_load_old_password :
    ∃ settings, load (passwordSurroundings [("PW", "old")]) = .ok settings ∧
      passwords (.ok settings) = some [some "old"] :=
  exists_of_passwords (by decide +kernel)

/-- A changed timeout and a removed document are followed at once, a changed password that the
document tells by another variable is not. -/
theorem settings_follow_own_variables :
    let activity : Activity := { surroundings := passwordSurroundings [("PW", "old")] }
    (∀ c ∈ consultations [] activity [.consult, .set "QB_CONNECT_TIMEOUT" "5", .consult,
      .unset "QB_DATABASES_JSON", .consult], c.answer = load c.now) ∧
    ∀ c ∈ consultations [] activity [.consult, .set "PW" "new", .consult],
      passwords c.answer = some [some "old"] := by
  intro activity
  have htimeout : isOwnVariable "QB_CONNECT_TIMEOUT" = true := by decide
  have hdocument : isOwnVariable "QB_DATABASES_JSON" = true := by decide
  have hpassword : isOwnVariable "PW" = false := by decide
  constructor
  · refine (settings_follow_variables rfl rfl _).2.1 ?_
    simp [Step.ChangesOwn, htimeout, hdocument]
  · obtain ⟨settings, hload, hfound⟩ := exists_load_old_password
    have hfirst : load activity.surroundings = .ok settings := hload
    have hsteps : ∀ step ∈ [Step.set "PW" "new", .consult], step.LeavesOwn := by
      simp [Step.LeavesOwn, hpassword]
    intro c hc
    rw [(settings_follow_variables rfl rfl _).2.2 settings hfirst hsteps c hc, hfound]

/-- A password that a document tells by another variable stays the old one when that variable
changes. -/
theorem settings_lag_behind_password :
    let activity : Activity := { surroundings := passwordSurroundings [("PW", "old")] }
    ∃ c ∈ consultations [] activity [.consult, .set "PW" "new", .consult],
      passwords c.answer = some [some "old"] ∧ passwords (load c.now) = some [some "new"] ∧
        c.answer ≠ load c.now := by
  intro activity
  have hpassword : isOwnVariable "PW" = false := by decide
  have hnew : passwords (load (activity.surroundings.setVariable "PW" "new")) =
      some [some "new"] := by decide +kernel
  obtain ⟨settings, hload, hfound⟩ := exists_load_old_password
  have hfirst : load activity.surroundings = .ok settings := hload
  have hsteps : ∀ step ∈ [Step.set "PW" "new", .consult], step.LeavesOwn := by
    simp [Step.LeavesOwn, hpassword]
  have hkept : Kept [] activity := ⟨rfl, (fun _ hs => nomatch hs), fun _ hs => nomatch hs⟩
  obtain ⟨c, hc, hnow⟩ : ∃ c ∈ consultations [] activity [.consult, .set "PW" "new", .consult],
      c.now = activity.surroundings.setVariable "PW" "new" :=
    ⟨_, List.mem_cons_of_mem _ List.mem_cons_self,
      congrArg (fun s : Surroundings => s.setVariable "PW" "new") hkept.current.2.1⟩
  have hanswer := answer_of_first_load rfl rfl hfirst hsteps c hc
  refine ⟨c, hc, by rw [hanswer, hfound], by rw [hnow, hnew], fun heq => ?_⟩
  rw [hanswer, hnow] at heq
  rw [← heq, hfound] at hnew
  exact absurd hnew (by decide)

end Settings
end BoundUpdate
