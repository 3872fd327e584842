import BoundUpdate.Lookup.Path
import BoundUpdate.Proofs.Activity.Running

namespace BoundUpdate
namespace Lookup

/-!
# Watching a lookup

What a lookup asks values for can be written down while it runs: the fields it
reads, the accessors it looks for and the ones it calls.  A watched lookup runs
as the lookup itself does.  A path is followed member by member, so a path in
two parts is followed by following the first part and, from the value that it
leads to, the second one; from nothing, nothing is asked.
-/

variable {α β : Type} {convention : AccessorConvention}

/-! ## Inquiries -/

/-- What a lookup asks a value for. -/
inductive Inquiry where
  /-- The field with a name: a key of a mapping, or an attribute. -/
  | field (target : Value) (name : String)
  /-- The attribute with the name of an accessor. -/
  | accessor (target : Value) (name : String)
  /-- The answer of an accessor. -/
  | call (target : Value) (accessor : String)

/-- A probe that writes down what it asks. -/
abbrev Watched := ExceptT Failure (StateM (Counts × List Inquiry))

namespace Watched

/-- Write down what is asked and run a probe for the answer. -/
def ask (inquiry : Inquiry) (x : Probe α) : Watched α := fun (counts, asked) =>
  let (outcome, after) := x counts
  (outcome, after, asked ++ [inquiry])

@[simp]
theorem ask_run (inquiry : Inquiry) (x : Probe α) (counts : Counts) (asked : List Inquiry) :
    ask inquiry x (counts, asked) = ((x counts).1, (x counts).2, asked ++ [inquiry]) := rfl

/-- All that is asked from given counts, in order. -/
def inquiries (w : Watched α) (counts : Counts) : List Inquiry := (w (counts, [])).2.2

/-- A watched probe runs as a probe does and, whatever was asked before, asks the same. -/
def Watches (w : Watched α) (x : Probe α) : Prop :=
  ∀ counts, ∃ asked, ∀ before,
    w (counts, before) = ((x counts).1, (x counts).2, before ++ asked)

variable {w : Watched α} {x : Probe α}

theorem Watches.run (h : w.Watches x) (counts : Counts) (before : List Inquiry) :
    w (counts, before) = ((x counts).1, (x counts).2, before ++ w.inquiries counts) := by
  obtain ⟨asked, hasked⟩ := h counts
  rw [inquiries, hasked before, hasked [], List.nil_append]

theorem watches_pure (a : α) : Watches (pure a) (pure a) :=
  fun _ => ⟨[], fun before => by rw [List.append_nil]; rfl⟩

theorem watches_throw (failure : Failure) :
    Watches (throw failure : Watched α) (throw failure : Probe α) :=
  fun _ => ⟨[], fun before => by rw [List.append_nil]; rfl⟩

theorem watches_ask (inquiry : Inquiry) (x : Probe α) : (ask inquiry x).Watches x :=
  fun _ => ⟨[inquiry], fun _ => rfl⟩

theorem Watches.bind {f : α → Watched β} {g : α → Probe β} (h : w.Watches x)
    (hf : ∀ a, (f a).Watches (g a)) : (w >>= f).Watches (x >>= g) := by
  intro counts
  obtain ⟨asked, hasked⟩ := h counts
  rcases hx : x counts with ⟨failure | a, between⟩
  · refine ⟨asked, fun before => ?_⟩
    rw [Act.bind_run_error hx, Act.bind_run_error ((hasked before).trans (by rw [hx]))]
  · obtain ⟨more, hmore⟩ := hf a between
    refine ⟨asked ++ more, fun before => ?_⟩
    rw [Act.bind_run_ok hx, Act.bind_run_ok ((hasked before).trans (by rw [hx])), hmore,
      List.append_assoc]

end Watched

/-! ## Watched lookups -/

/-- The answer of the first accessor that can be called, watched. -/
def watchAccessors (target : Value) : List String → Watched (Option Value)
  | [] => pure none
  | name :: rest => do
    match ← .ask (.accessor target name) (unlessMissing (readAttribute target name)) with
    | none => watchAccessors target rest
    | some found =>
      match callAttribute? found [] with
      | none => watchAccessors target rest
      | some call => return some (← .ask (.call target name) (callAccessor target name call))

/-- The member of a value with a name, watched. -/
def watchMember (convention : AccessorConvention) (target : Value) (name : String) :
    Watched Value := do
  match ← .ask (.field target name) (field? target name) with
  | some v => return v
  | none =>
    let tried := convention.accessorNames name
    match ← watchAccessors target tried with
    | some v => return v
    | none => throw (.binding (.noMember name target.typeName tried))

theorem watches_watchAccessors (target : Value) (names : List String) :
    (watchAccessors target names).Watches (accessor? target names) := by
  induction names with
  | nil => exact Watched.watches_pure none
  | cons name rest ih =>
    refine (Watched.watches_ask _ _).bind fun found => ?_
    cases found with
    | none => exact ih
    | some found =>
      dsimp only
      cases callAttribute? found [] with
      | none => exact ih
      | some call =>
        exact (Watched.watches_ask _ _).bind fun v => Watched.watches_pure (some v)

/-- Watching changes nothing: the watched lookup of a member runs as the lookup does. -/
theorem watches_watchMember (convention : AccessorConvention) (target : Value) (name : String) :
    (watchMember convention target name).Watches (member target name convention) := by
  refine (Watched.watches_ask _ _).bind fun found => ?_
  cases found with
  | some v => exact Watched.watches_pure v
  | none =>
    refine (watches_watchAccessors target _).bind fun answer => ?_
    cases answer with
    | some v => exact Watched.watches_pure v
    | none => exact Watched.watches_throw _

/-! ## Paths -/

/-- One step of a path; nothing stays nothing. -/
def step (convention : AccessorConvention) (v : Value) (name : String) : Probe Value :=
  match v with
  | .none => pure .none
  | v => member v name convention

/-- The value that a path leads to, without the notes that following it leaves. -/
def descend (convention : AccessorConvention) (v : Value) (path : List String) : Probe Value :=
  path.foldlM (step convention) v

/-- One step of a path, watched. -/
def watchStep (convention : AccessorConvention) (v : Value) (name : String) : Watched Value :=
  match v with
  | .none => pure .none
  | v => watchMember convention v name

/-- The value that a path leads to, watched. -/
def watchPath (convention : AccessorConvention) (v : Value) (path : List String) : Watched Value :=
  path.foldlM (watchStep convention) v

/-- The value that a placeholder denotes, watched. -/
def watchResolve (convention : AccessorConvention) (p : Placeholder) (arguments : List Value) :
    Watched Value :=
  match argument? p arguments with
  | some v => watchPath convention v p.path
  | none => throw (.binding (.argumentMissing p.describe (Number.intText p.index)
      arguments.length))

theorem step_of_ne {v : Value} (h : v ≠ .none) (name : String) :
    step convention v name = member v name convention := by
  unfold step
  split
  · exact absurd rfl h
  · rfl

theorem watchStep_of_ne {v : Value} (h : v ≠ .none) (name : String) :
    watchStep convention v name = watchMember convention v name := by
  unfold watchStep
  split
  · exact absurd rfl h
  · rfl

theorem descend_none (path : List String) :
    descend convention .none path = pure Value.none := by
  induction path with
  | nil => rfl
  | cons name rest ih => exact ih

/-- From nothing, nothing is asked. -/
theorem watchPath_none (path : List String) :
    watchPath convention .none path = pure Value.none := by
  induction path with
  | nil => rfl
  | cons name rest ih => exact ih

theorem watches_watchStep (v : Value) (name : String) :
    (watchStep convention v name).Watches (step convention v name) := by
  by_cases hv : v = .none
  · subst hv
    exact Watched.watches_pure Value.none
  · rw [step_of_ne hv, watchStep_of_ne hv]
    exact watches_watchMember convention v name

theorem watches_watchPath (v : Value) (path : List String) :
    (watchPath convention v path).Watches (descend convention v path) := by
  induction path generalizing v with
  | nil => exact Watched.watches_pure v
  | cons name rest ih =>
    rw [watchPath, descend, List.foldlM_cons, List.foldlM_cons]
    exact (watches_watchStep v name).bind fun next => ih next

/-- What is noted about the outcome of following a path. -/
def unresolvedNotes (described : String) : Except Failure Value → List Record
  | .ok _ => []
  | .error failure =>
    if failure.kind.isBinding then
      [{ level := .error, origin := .members
         message := "Failed to resolve " ++ described ++ ": " ++ failure.text }]
    else []

theorem noteUnresolved_run (described : String) (failure : Failure) (activity : Activity) :
    noteUnresolved described failure activity =
      (.ok (), { activity with journal :=
        activity.journal ++ unresolvedNotes described (.error failure) }) := by
  unfold noteUnresolved unresolvedNotes
  dsimp only
  by_cases h : failure.kind.isBinding = true
  · rw [if_pos h, if_pos h]
    rfl
  · rw [if_neg h, if_neg h, List.append_nil]
    rfl

theorem follow_nothing (described : String) (path : List String) :
    follow convention described .none path = pure Value.none := by
  cases path <;> rfl

/-- Following a path leaves counts and notes behind, and nothing else. -/
theorem follow_run (described : String) (v : Value) (path : List String) (activity : Activity) :
    follow convention described v path activity =
      ((descend convention v path activity.counts).1,
        { activity with
          counts := (descend convention v path activity.counts).2
          journal := activity.journal ++
            unresolvedNotes described (descend convention v path activity.counts).1 }) := by
  induction path generalizing v activity with
  | nil =>
    show (Except.ok v, activity) = (Except.ok v, { activity with
      counts := activity.counts, journal := activity.journal ++ [] })
    rw [List.append_nil]
  | cons name rest ih =>
    by_cases hv : v = .none
    · subst hv
      rw [follow_nothing, descend_none]
      show (Except.ok Value.none, activity) = (Except.ok Value.none, { activity with
        counts := activity.counts, journal := activity.journal ++ [] })
      rw [List.append_nil]
    · have hstep : follow convention described v (name :: rest) =
          (Act.attempt (Act.probe (member v name convention)) >>= fun outcome =>
            match outcome with
            | .ok next => follow convention described next rest
            | .error failure => noteUnresolved described failure >>= fun _ => throw failure) :=
        follow.eq_3 _ _ _ _ _ hv
      rw [hstep, Act.bind_run_ok (Act.attempt_run _ _), Act.probe_run, descend, List.foldlM_cons,
        step_of_ne hv]
      rcases hmember : member v name convention activity.counts with ⟨failure | next, between⟩
      · rw [Act.bind_run_error hmember]
        dsimp only
        rw [Act.bind_run_ok (noteUnresolved_run _ _ _)]
        rfl
      · rw [Act.bind_run_ok hmember]
        exact ih next _

theorem descend_append (v : Value) (p q : List String) :
    descend convention v (p ++ q) = descend convention v p >>= fun next =>
      descend convention next q := List.foldlM_append

theorem watchPath_append (v : Value) (p q : List String) :
    watchPath convention v (p ++ q) = watchPath convention v p >>= fun next =>
      watchPath convention next q := List.foldlM_append

/-- Following a path in parts leads where following it leads; only notes tell what was followed. -/
theorem follow_append (described first second : String) (v : Value) (p q : List String)
    (activity : Activity) :
    let run := follow convention described v (p ++ q) activity
    let parted := (follow convention first v p >>= fun next =>
      follow convention second next q) activity
    run.1 = parted.1 ∧
      { run.2 with journal := [] } = ({ parted.2 with journal := [] } : Activity) := by
  have hfront : follow convention first v p activity = _ := follow_run first v p activity
  rw [follow_run, descend_append]
  rcases hdescend : descend convention v p activity.counts with ⟨failure | next, between⟩
  · rw [hdescend] at hfront
    rw [Act.bind_run_error hdescend, Act.bind_run_error hfront]
    exact ⟨rfl, rfl⟩
  · rw [hdescend] at hfront
    rw [Act.bind_run_ok hdescend, Act.bind_run_ok hfront, follow_run]
    exact ⟨rfl, rfl⟩

/-- A path whose first part leads to nothing leads to nothing. -/
theorem follow_append_of_nothing (described first : String) {v : Value} {p : List String}
    {activity after : Activity} (h : follow convention first v p activity = (.ok .none, after))
    (q : List String) :
    follow convention described v (p ++ q) activity = (.ok .none, after) := by
  rw [follow_run] at h
  obtain ⟨hgiven, rfl⟩ := Prod.mk.inj h
  have hdescend : descend convention v p activity.counts =
      (.ok .none, (descend convention v p activity.counts).2) := Prod.ext hgiven rfl
  rw [follow_run, descend_append, Act.bind_run_ok hdescend, descend_none, hgiven]
  rfl

/-- Behind nothing, nothing is asked. -/
theorem inquiries_append_of_nothing {v : Value} {p : List String} {counts : Counts}
    (h : (descend convention v p counts).1 = .ok .none) (q : List String) :
    (watchPath convention v (p ++ q)).inquiries counts =
      (watchPath convention v p).inquiries counts := by
  have hpath : watchPath convention v p (counts, []) =
      (.ok .none, (watchPath convention v p (counts, [])).2) := by
    refine Prod.ext ?_ rfl
    rw [(watches_watchPath v p).run]
    exact h
  rw [watchPath_append, Watched.inquiries, Act.bind_run_ok hpath, watchPath_none]
  rfl

/-! ## Placeholders -/

section Placeholders

variable {p : Placeholder} {arguments : List Value} {v : Value}

theorem resolve_of_argument (h : argument? p arguments = some v) :
    resolve convention p arguments = follow convention p.describe v p.path := by
  rw [resolve, h]

theorem watchResolve_of_argument (h : argument? p arguments = some v) :
    watchResolve convention p arguments = watchPath convention v p.path := by
  rw [watchResolve, h]

/-- Watching changes nothing: a placeholder is resolved as it is watched. -/
theorem watchResolve_run (convention : AccessorConvention) (p : Placeholder)
    (arguments : List Value) (activity : Activity) :
    (watchResolve convention p arguments (activity.counts, [])).1 =
        (resolve convention p arguments activity).1 ∧
      (watchResolve convention p arguments (activity.counts, [])).2.1 =
        (resolve convention p arguments activity).2.counts := by
  cases h : argument? p arguments with
  | some v =>
    rw [watchResolve_of_argument h, resolve_of_argument h, (watches_watchPath v p.path).run,
      follow_run]
    exact ⟨rfl, rfl⟩
  | none =>
    rw [watchResolve, resolve, h]
    exact ⟨rfl, rfl⟩

theorem exists_argument {i : Int} (hfirst : 1 ≤ i) (hlast : i ≤ arguments.length) :
    ∃ v, ∀ path, argument? { index := i, path } arguments = some v := by
  have hplace : (i - 1).toNat < arguments.length := by omega
  refine ⟨arguments[(i - 1).toNat], fun path => ?_⟩
  rw [argument?, if_neg (by dsimp only; omega)]
  exact List.getElem?_eq_getElem hplace

end Placeholders

/-- A placeholder is resolved along its path in parts: what it denotes, what it leaves behind and
what it asks are those of resolving the first part of the path and then, from the value that this
one gives, the second part; only notes name the placeholder.  When the first part gives nothing,
the whole path does, and no member of the second part is asked for. -/
theorem resolve_in_parts {arguments : List Value} {i : Int} (hfirst : 1 ≤ i)
    (hlast : i ≤ arguments.length) (convention : AccessorConvention) (p q : List String)
    (activity : Activity) :
    let whole : Placeholder := { index := i, path := p ++ q }
    let front : Placeholder := { index := i, path := p }
    let rest : Placeholder := { index := 1, path := q }
    let run := resolve convention whole arguments activity
    let parted := (resolve convention front arguments >>= fun v =>
      resolve convention rest [v]) activity
    (run.1 = parted.1 ∧
      { run.2 with journal := [] } = ({ parted.2 with journal := [] } : Activity)) ∧
    watchResolve convention whole arguments =
      (watchResolve convention front arguments >>= fun v => watchResolve convention rest [v]) ∧
    ((watchResolve convention whole arguments (activity.counts, [])).1 = run.1 ∧
      (watchResolve convention whole arguments (activity.counts, [])).2.1 = run.2.counts) ∧
    ∀ after, resolve convention front arguments activity = (.ok .none, after) →
      run = (.ok .none, after) ∧
        (watchResolve convention whole arguments).inquiries activity.counts =
          (watchResolve convention front arguments).inquiries activity.counts := by
  intro whole front rest run parted
  obtain ⟨v, hv⟩ := exists_argument hfirst hlast
  have hrest : (fun next => resolve convention rest [next]) =
      fun next => follow convention rest.describe next q :=
    funext fun next => resolve_of_argument rfl
  have hrun : run = follow convention whole.describe v (p ++ q) activity :=
    congrFun (resolve_of_argument (hv _)) activity
  have hfront : resolve convention front arguments = _ := resolve_of_argument (hv _)
  refine ⟨?_, ?_, watchResolve_run _ _ _ _, fun after hnone => ⟨?_, ?_⟩⟩
  · have hparted : parted = (follow convention front.describe v p >>= fun next =>
        follow convention rest.describe next q) activity := by
      rw [← hrest, ← hfront]
    rw [hrun, hparted]
    exact follow_append whole.describe front.describe rest.describe v p q activity
  · rw [watchResolve_of_argument (hv _), watchResolve_of_argument (hv _), watchPath_append]
    rfl
  · rw [hfront] at hnone
    rw [hrun]
    exact follow_append_of_nothing whole.describe front.describe hnone q
  · rw [hfront, follow_run] at hnone
    rw [watchResolve_of_argument (hv _), watchResolve_of_argument (hv _)]
    exact inquiries_append_of_nothing (Prod.mk.inj hnone).1 q

/-- An account whose accessor counts its runs and whose owner is nothing: the accessor runs once,
and nothing is asked for behind the owner. -/
theorem resolve_in_parts_counted_and_nothing :
    let account : Value := .object
      { name := "A", slots := [], call := none
        members := [("getNext", .method
          { name := "getNext", title := "A.getNext", receives := true, parameters := []
            action := .count 0 })] } [("owner", .none)]
    ((1 : Int) ≤ 2 ∧ (2 : Int) ≤ [Value.none, account].length) ∧
      (resolve {} { index := 2, path := ["next"] ++ ["real"] } [.none, account] {}).1 =
        .ok (.int 1) ∧
      (resolve {} { index := 2, path := ["owner"] ++ ["name"] } [.none, account] {}).1 =
        .ok .none ∧
      ((watchResolve {} { index := 2, path := ["owner"] ++ ["name"] }
        [.none, account]).inquiries fun _ => 0).length = 1 := by
  intro account
  have hlast : (2 : Int) ≤ [Value.none, account].length := by decide
  have hparts := fun p q => resolve_in_parts (by decide) hlast {} p q {}
  obtain ⟨⟨hnext, -⟩, -⟩ := hparts ["next"] ["real"]
  obtain ⟨-, -, -, hnone⟩ := hparts ["owner"] ["name"]
  obtain ⟨howner, hasked⟩ := hnone _ rfl
  refine ⟨⟨by decide, by decide⟩, hnext.trans rfl, congrArg Prod.fst howner, ?_⟩
  exact (congrArg List.length hasked).trans rfl

end Lookup
end BoundUpdate
