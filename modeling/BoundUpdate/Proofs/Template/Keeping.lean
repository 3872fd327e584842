import BoundUpdate.Proofs.Activity.Running
import BoundUpdate.Proofs.Association
import BoundUpdate.Proofs.Failure.Sequence
import BoundUpdate.Template.Cache

namespace BoundUpdate
namespace Template

/-!
# How templates are kept

That templates are kept shows in their identity only.  Whatever was asked for
before, a text has the template that reading it anew gives, or fails as reading
it fails.  The invariant is that every kept template was read from the text that
it is kept under and has a serial number of its own.  Two answers are one
template exactly if they were given for equal texts of one kind and nothing was
forgotten in between.
-/

/-- What is done with the kept templates. -/
inductive Step where
  | fetch (v : Value)
  | clear

/-- What a step leaves behind. -/
def Step.after (activity : Activity) : Step → Activity
  | .fetch v => (Template.fetch v activity).2
  | .clear => (clearCache activity).2

/-- What some steps leave behind. -/
def afterSteps (activity : Activity) (steps : List Step) : Activity :=
  steps.foldl Step.after activity

theorem afterSteps_append_cons (activity : Activity) (earlier : List Step) (step : Step)
    (later : List Step) :
    afterSteps activity (earlier ++ step :: later) =
      afterSteps (step.after (afterSteps activity earlier)) later := by
  rw [afterSteps, List.foldl_append]
  rfl

/-! ## One text -/

/-- Whether a value is a member of an enumeration. -/
def isMember : Value → Bool
  | .enumMember _ => true
  | _ => false

/-- What the template of a text is kept under. -/
def keyOf (v : Value) (s : String) : TemplateKey := { isMember := isMember v, source := s }

theorem keyOf?_of_text? {v : Value} {s : String} (h : v.text? = some s) :
    keyOf? v = some (keyOf v s) := by
  unfold Value.text? at h
  split at h
  · cases h
    rfl
  · cases h
    rfl
  · cases h

theorem keyOf?_of_no_text {v : Value} (h : v.text? = none) : keyOf? v = none := by
  unfold keyOf?
  split
  · cases h
  · rw [h]
    rfl

theorem asKey_of_text? {v : Value} {s : String} (h : v.text? = some s) : v.asKey = .ok v := by
  unfold Value.text? at h
  split at h
  · rfl
  · rfl
  · cases h

/-- Reading a text anew gives its template and a note, or its failure. -/
theorem exists_ofValue {v : Value} {s : String} (h : v.text? = some s) (activity : Activity) :
    ∃ journal, ofValue v activity =
      ((read s).mapError (ReadError.failure s), { activity with journal }) := by
  unfold ofValue
  rw [h]
  dsimp only
  cases read s with
  | error e => exact ⟨_, rfl⟩
  | ok t => exact ⟨_, rfl⟩

/-- How the template of a text is fetched: it is kept already, or it is read and kept, unless
reading it fails. -/
inductive Fetched (v : Value) (s : String) (activity : Activity) :
    Except Failure HeldTemplate → Activity → Prop
  | kept {held : HeldTemplate} :
      activity.templates.lookup (keyOf v s) = some held → Fetched v s activity (.ok held) activity
  | failed {e : ReadError} {journal : List Record} :
      activity.templates.lookup (keyOf v s) = none → read s = .error e →
      Fetched v s activity (.error (e.failure s)) { activity with journal }
  | read {t : Template} {journal : List Record} :
      activity.templates.lookup (keyOf v s) = none → read s = .ok t →
      Fetched v s activity (.ok { serial := activity.nextSerial, template := t, told := v.plain })
        { activity with
          journal, nextSerial := activity.nextSerial + 1
          templates := (keyOf v s,
            { serial := activity.nextSerial, template := t, told := v.plain }) ::
              activity.templates }

section Fetching

variable {v : Value} {s : String} {activity : Activity}

theorem fetch_of_kept (h : v.text? = some s) {held : HeldTemplate}
    (hlookup : activity.templates.lookup (keyOf v s) = some held) :
    fetch v activity = (.ok held, activity) := by
  rw [fetch, asKey_of_text? h, Act.bind_run_ok (Act.ofExcept_run _ _), keyOf?_of_text? h]
  dsimp only
  rw [Act.get_bind_run, hlookup]
  rfl

theorem fetch_of_missing (h : v.text? = some s)
    (hlookup : activity.templates.lookup (keyOf v s) = none) :
    fetch v activity = (do keep (keyOf v s) (← ofValue v) v.plain : Act HeldTemplate) activity := by
  rw [fetch, asKey_of_text? h, Act.bind_run_ok (Act.ofExcept_run _ _), keyOf?_of_text? h]
  dsimp only
  rw [Act.get_bind_run, hlookup]

theorem fetched_of_text (h : v.text? = some s) (activity : Activity) :
    Fetched v s activity (fetch v activity).1 (fetch v activity).2 := by
  cases hlookup : activity.templates.lookup (keyOf v s) with
  | some held =>
    rw [fetch_of_kept h hlookup]
    exact .kept hlookup
  | none =>
    rw [fetch_of_missing h hlookup]
    obtain ⟨journal, hrun⟩ := exists_ofValue h activity
    cases hread : read s with
    | error e =>
      rw [hread] at hrun
      rw [Act.bind_run_error hrun]
      exact .failed hlookup hread
    | ok t =>
      rw [hread] at hrun
      rw [Act.bind_run_ok hrun]
      exact .read hlookup hread

end Fetching

/-- A value that is no text leaves the kept templates as they are. -/
theorem fetch_of_no_text {v : Value} (h : v.text? = none) (activity : Activity) :
    (fetch v activity).2 = activity := by
  rw [fetch]
  cases hkey : v.asKey with
  | error failure => rfl
  | ok key =>
    have hsame : key = v := by
      unfold Value.asKey at hkey
      split at hkey
      · cases hkey
      · exact (Except.ok.inj hkey).symm
    rw [Act.bind_run_ok (Act.ofExcept_run _ _), hsame, keyOf?_of_no_text h]
    rfl

/-! ## Invariants -/

/-- Every kept template was read from the text that it is kept under, and has a serial number that
was given to no other one. -/
structure Sound (activity : Activity) : Prop where
  read : ∀ entry ∈ activity.templates, Template.read entry.1.source = .ok entry.2.template
  given : ∀ entry ∈ activity.templates, entry.2.serial < activity.nextSerial
  apart : ∀ entry ∈ activity.templates, ∀ other ∈ activity.templates,
    entry.2.serial = other.2.serial → entry = other

/-- A serial number was given, and the template that has it, if it is still kept, is kept under a
key with a property. -/
structure Belongs (serial : Nat) (P : TemplateKey → Prop) (activity : Activity) : Prop where
  given : serial < activity.nextSerial
  key : ∀ entry ∈ activity.templates, entry.2.serial = serial → P entry.1

section Invariants

variable {activity after : Activity} {v : Value} {s : String}
  {outcome : Except Failure HeldTemplate}

theorem sound_of_empty (h : activity.templates = []) : Sound activity where
  read := fun _ hentry => by rw [h] at hentry; cases hentry
  given := fun _ hentry => by rw [h] at hentry; cases hentry
  apart := fun _ hentry => by rw [h] at hentry; cases hentry

theorem Sound.fetched (h : Sound activity) (hfetched : Fetched v s activity outcome after) :
    Sound after := by
  cases hfetched with
  | kept _ => exact h
  | failed _ _ => exact ⟨h.read, h.given, h.apart⟩
  | read _ hread =>
    have hbefore : ∀ entry ∈ activity.templates, entry.2.serial ≠ activity.nextSerial :=
      fun entry hentry => Nat.ne_of_lt (h.given entry hentry)
    refine ⟨List.forall_mem_cons.2 ⟨hread, h.read⟩, List.forall_mem_cons.2 ⟨Nat.lt_succ_self _,
      fun entry hentry => Nat.lt_succ_of_lt (h.given entry hentry)⟩, ?_⟩
    intro entry hentry other hother hserial
    -- the new serial number is greater than all that were given
    rcases List.mem_cons.1 hentry with rfl | hentry <;>
      rcases List.mem_cons.1 hother with rfl | hother
    · rfl
    · exact absurd hserial.symm (hbefore other hother)
    · exact absurd hserial (hbefore entry hentry)
    · exact h.apart entry hentry other hother hserial

theorem Sound.step (h : Sound activity) (step : Step) : Sound (step.after activity) := by
  cases step with
  | clear => exact sound_of_empty rfl
  | fetch v =>
    cases htext : v.text? with
    | none => rw [Step.after, fetch_of_no_text htext]; exact h
    | some s => exact h.fetched (fetched_of_text htext activity)

theorem Sound.steps (h : Sound activity) (steps : List Step) :
    Sound (afterSteps activity steps) := by
  induction steps generalizing activity with
  | nil => exact h
  | cons step rest ih => exact ih (h.step step)

/-- A text is answered as reading it anew is. -/
theorem Sound.outcome_eq (h : Sound activity) (hfetched : Fetched v s activity outcome after) :
    outcome.map HeldTemplate.template = (Template.read s).mapError (ReadError.failure s) := by
  cases hfetched with
  | kept hlookup =>
    have hread : Template.read s = .ok _ := h.read _ (mem_of_lookup hlookup)
    rw [hread]
    rfl
  | failed _ hread =>
    rw [hread]
    rfl
  | read _ hread =>
    rw [hread]
    rfl

/-- A template that was just fetched is kept under the key of its text. -/
theorem Fetched.lookup_eq {held : HeldTemplate} (h : Fetched v s activity (.ok held) after) :
    after.templates.lookup (keyOf v s) = some held := by
  cases h with
  | kept hlookup => exact hlookup
  | read _ _ => exact List.lookup_cons_self

/-- The serial number of a kept template belongs to its key. -/
theorem Sound.belongs (h : Sound activity) {key : TemplateKey} {held : HeldTemplate}
    (hlookup : activity.templates.lookup key = some held) :
    Belongs held.serial (· = key) activity := by
  have hmem := mem_of_lookup hlookup
  exact ⟨h.given _ hmem, fun entry hentry hserial =>
    congrArg Prod.fst (h.apart entry hentry _ hmem hserial)⟩

section Belongs

variable {serial : Nat} {P : TemplateKey → Prop}

theorem Belongs.fetched (h : Belongs serial P activity)
    (hfetched : Fetched v s activity outcome after) : Belongs serial P after := by
  cases hfetched with
  | kept _ => exact h
  | failed _ _ => exact ⟨h.given, h.key⟩
  | read _ _ =>
    refine ⟨Nat.lt_succ_of_lt h.given, List.forall_mem_cons.2 ⟨fun hserial => ?_, h.key⟩⟩
    exact absurd hserial (Nat.ne_of_gt h.given)

theorem Belongs.step (h : Belongs serial P activity) (step : Step) :
    Belongs serial P (step.after activity) := by
  cases step with
  | clear => exact ⟨h.given, fun _ hentry => nomatch hentry⟩
  | fetch v =>
    cases htext : v.text? with
    | none => rw [Step.after, fetch_of_no_text htext]; exact h
    | some s => exact h.fetched (fetched_of_text htext activity)

/-- Once templates were forgotten, their serial numbers belong to nothing. -/
theorem Belongs.steps (h : Belongs serial P activity) (steps : List Step) :
    Belongs serial (fun key => P key ∧ .clear ∉ steps) (afterSteps activity steps) := by
  induction steps generalizing activity P with
  | nil => exact ⟨h.given, fun entry hentry hserial => ⟨h.key entry hentry hserial, nofun⟩⟩
  | cons step rest ih =>
    cases step with
    | clear =>
      -- nothing is kept, and no later template gets a serial number that was given
      have hnone : Belongs serial (fun _ => False) (Step.clear.after activity) :=
        ⟨h.given, fun _ hentry => nomatch hentry⟩
      obtain ⟨hgiven, hkey⟩ := ih hnone
      exact ⟨hgiven, fun entry hentry hserial => absurd (hkey entry hentry hserial).1 id⟩
    | fetch v =>
      obtain ⟨hgiven, hkey⟩ := ih (h.step (.fetch v))
      refine ⟨hgiven, fun entry hentry hserial => ?_⟩
      obtain ⟨hP, hrest⟩ := hkey entry hentry hserial
      exact ⟨hP, by simpa using hrest⟩

/-- A template with a serial number that was given before is kept under the key it belongs to. -/
theorem Belongs.of_fetched (h : Belongs serial P activity) {held : HeldTemplate}
    (hfetched : Fetched v s activity (.ok held) after) (hserial : held.serial = serial) :
    P (keyOf v s) := by
  cases hfetched with
  | kept hlookup => exact h.key _ (mem_of_lookup hlookup) hserial
  | read _ _ => exact absurd hserial (Nat.ne_of_gt h.given)

end Belongs

/-- Fetching adds a template only under a key that none is kept under. -/
theorem Fetched.lookup_kept (h : Fetched v s activity outcome after) {key : TemplateKey}
    {held : HeldTemplate} (hlookup : activity.templates.lookup key = some held) :
    after.templates.lookup key = some held := by
  cases h with
  | kept _ => exact hlookup
  | failed _ _ => exact hlookup
  | read hnone _ =>
    have hne : (key == keyOf v s) = false := by
      refine beq_false_of_ne fun hsame => ?_
      rw [hsame, hnone] at hlookup
      cases hlookup
    rw [List.lookup_cons, hne]
    exact hlookup

theorem lookup_afterSteps {key : TemplateKey} {held : HeldTemplate}
    (h : activity.templates.lookup key = some held) {steps : List Step}
    (hsteps : .clear ∉ steps) : (afterSteps activity steps).templates.lookup key = some held := by
  induction steps generalizing activity with
  | nil => exact h
  | cons step rest ih =>
    have hrest : .clear ∉ rest := fun hmem => hsteps (List.mem_cons_of_mem _ hmem)
    cases step with
    | clear => exact absurd List.mem_cons_self hsteps
    | fetch v =>
      refine ih ?_ hrest
      cases htext : v.text? with
      | none => rw [Step.after, fetch_of_no_text htext]; exact h
      | some s => exact (fetched_of_text htext activity).lookup_kept h

theorem Fetched.eq_of_lookup {held held' : HeldTemplate}
    (h : Fetched v s activity (.ok held') after)
    (hlookup : activity.templates.lookup (keyOf v s) = some held) : held' = held := by
  cases h with
  | kept hkept => exact Option.some.inj (hkept.symm.trans hlookup)
  | read hnone _ =>
    rw [hlookup] at hnone
    cases hnone

end Invariants

/-! ## Answers -/

theorem keyOf_eq_iff {v w : Value} {s t : String} :
    keyOf w t = keyOf v s ↔ isMember w = isMember v ∧ t = s := by
  simp [keyOf]

/-- After any steps, a text has the template that reading it anew gives, or fails as that fails, and
nothing is kept that was not read.  A later answer is the same template if and only if it is for an
equal text of the same kind and the templates were not forgotten in between. -/
theorem fetch_as_if_read_anew {activity : Activity} (hempty : activity.templates = [])
    (earlier : List Step) {v : Value} {s : String} (hv : v.text? = some s) :
    (∀ elsewhere, (fetch v (afterSteps activity earlier)).1.map HeldTemplate.template =
      (ofValue v elsewhere).1) ∧
    (∀ key held, (key, held) ∈ (afterSteps activity earlier).templates →
      read key.source = .ok held.template) ∧
    ∀ held between w t held', (fetch v (afterSteps activity earlier)).1 = .ok held →
      w.text? = some t →
      (fetch w (afterSteps activity (earlier ++ .fetch v :: between))).1 = .ok held' →
      (held'.serial = held.serial → held' = held) ∧
      (held' = held ↔ (t = s ∧ isMember w = isMember v) ∧ .clear ∉ between) := by
  have hsound := (sound_of_empty hempty).steps earlier
  have hfetched := fetched_of_text hv (afterSteps activity earlier)
  refine ⟨fun elsewhere => ?_, fun key held hmem => hsound.read _ hmem, ?_⟩
  · obtain ⟨journal, hrun⟩ := exists_ofValue hv elsewhere
    rw [hsound.outcome_eq hfetched, hrun]
  · intro held between w t held' hheld hw hheld'
    rw [afterSteps_append_cons] at hheld'
    rw [hheld] at hfetched
    have hlater := fetched_of_text hw
      (afterSteps ((Step.fetch v).after (afterSteps activity earlier)) between)
    rw [hheld'] at hlater
    have hsame : (t = s ∧ isMember w = isMember v) ∧ .clear ∉ between → held' = held := by
      rintro ⟨⟨ht, hmember⟩, hbetween⟩
      refine hlater.eq_of_lookup ?_
      rw [keyOf_eq_iff.2 ⟨hmember, ht⟩]
      exact lookup_afterSteps hfetched.lookup_eq hbetween
    have hserial : held'.serial = held.serial →
        (t = s ∧ isMember w = isMember v) ∧ .clear ∉ between := by
      intro hserial
      have hbelongs := ((hsound.fetched hfetched).belongs hfetched.lookup_eq).steps between
      obtain ⟨hkey, hbetween⟩ := hbelongs.of_fetched hlater hserial
      exact ⟨(keyOf_eq_iff.1 hkey).symm, hbetween⟩
    exact ⟨fun h => hsame (hserial h), fun h => hserial (congrArg HeldTemplate.serial h), hsame⟩

/-- A text is asked for again behind another text, a malformed one and a member of an enumeration
that tells it, and the same template comes. -/
theorem fetch_as_if_read_anew_behind_member :
    let text : Value := .text "SET a = ?1"
    let member : Value :=
      .enumMember { enumeration := "Sql", name := "SAVE", value := text, base := .text }
    let between : List Step := [.fetch (.text "?2"), .fetch (.text "?\x7b"), .fetch member]
    text.text? = some "SET a = ?1" ∧ .clear ∉ between ∧
      ∃ held, (fetch text {}).1 = .ok held ∧
        (fetch text (afterSteps {} (.fetch text :: between))).1 = .ok held := by
  intro text member between
  have htext : text.text? = some "SET a = ?1" := rfl
  have hbetween : .clear ∉ between := by simp [between]
  have hempty : ({} : Activity).templates = [] := rfl
  obtain ⟨hfirst, -, hagain⟩ := fetch_as_if_read_anew hempty [] htext
  obtain ⟨hlater, -⟩ := fetch_as_if_read_anew hempty (.fetch text :: between) htext
  have hread : (ofValue text {}).1 = .ok { source := "SET a = ?1", segments :=
      [.literal "SET a = ", .placeholder { index := 1 }] } := by with_unfolding_all rfl
  obtain ⟨held, hheld, -⟩ := except_map_ok ((hfirst {}).trans hread)
  obtain ⟨held', hheld', -⟩ := except_map_ok ((hlater {}).trans hread)
  obtain ⟨-, hsame⟩ := hagain held between text _ held' hheld htext hheld'
  obtain rfl := hsame.2 ⟨⟨rfl, rfl⟩, hbetween⟩
  exact ⟨htext, hbetween, held', hheld, hheld'⟩

/-- A member of an enumeration has a template of its own, although it is equal to a text that was
asked for. -/
theorem member_fetched_apart :
    let text : Value := .text "SET a = ?1"
    let member : Value :=
      .enumMember { enumeration := "Sql", name := "SAVE", value := text, base := .text }
    member.text? = text.text? ∧ ∃ held held', (fetch text {}).1 = .ok held ∧
      (fetch member (afterSteps {} [.fetch text])).1 = .ok held' ∧ held'.serial ≠ held.serial := by
  intro text member
  let t : Template := { source := "SET a = ?1", segments :=
    [.literal "SET a = ", .placeholder { index := 1 }] }
  have hfirst : (fetch text {}).1 = .ok { serial := 0, template := t, told := "SET a = ?1" } := by
    with_unfolding_all rfl
  have hsecond : (fetch member (afterSteps {} [.fetch text])).1 =
      .ok { serial := 1, template := t, told := "Sql.SAVE" } := by
    with_unfolding_all rfl
  exact ⟨rfl, _, _, hfirst, hsecond, by decide⟩

end Template
end BoundUpdate
