import BoundUpdate.Proofs.Activity.Outcomes
import BoundUpdate.Proofs.Association
import BoundUpdate.Proofs.Lookup.Reading
import BoundUpdate.Proofs.Lookup.Watching

namespace BoundUpdate
namespace Lookup

/-!
# Fields before accessors

A field of the wanted name is the member, and no accessor is called for it.
Without a field the first accessor that can be called decides: its answer is the
member, or its failure is reported, and no later one is tried.  So a lookup calls
at most one accessor, and following a path calls at most one for each member.
-/

variable {α β : Type} {convention : AccessorConvention} {target : Value} {name : String}
  {counts after : Counts}

/-! ## What a lookup finds -/

/-- Reading the field of a value with a name, from some counts to others: the key of a mapping, or
else the attribute unless it is a bound method or a built-in operation. -/
inductive ReadsField (target : Value) (name : String) (counts : Counts) :
    Option Value → Counts → Prop
  | key {entries : Value.Entries} :
      target.entries? = some entries →
      ReadsField target name counts (entries.get? name) counts
  /-- An object that tells that it is a mapping is asked for the key. -/
  | told {typed after : Counts} {held : Option Value} :
      target.entries? = none → tellsMapping target counts = (.ok true, typed) →
      keyed? target name typed = (.ok held, after) →
      ReadsField target name counts held after
  | attribute {typed read after : Counts} {found : Attribute} {field : Option Value} :
      target.entries? = none → tellsMapping target counts = (.ok false, typed) →
      readAttribute target name typed = (.ok found, read) →
      fieldOf? found read = (.ok field, after) →
      ReadsField target name counts field after
  | missing {typed after : Counts} {failure : Failure} :
      target.entries? = none → tellsMapping target counts = (.ok false, typed) →
      readAttribute target name typed = (.error failure, after) →
      ReadsField target name counts none after

/-- Reading an accessor of a value, from some counts to others: it is missing, or cannot be
called. -/
inductive Unusable (target : Value) (accessor : String) (counts after : Counts) : Prop
  | missing {failure : Failure} :
      readAttribute target accessor counts = (.error failure, after) →
      Unusable target accessor counts after
  | uncallable {found : Attribute} :
      readAttribute target accessor counts = (.ok found, after) →
      callAttribute? found [] = none → Unusable target accessor counts after

/-- Reading some accessors of a value in order, from some counts to others: none can be used. -/
inductive PassesOver (target : Value) : Counts → List String → Counts → Prop
  | nil {counts : Counts} : PassesOver target counts [] counts
  | cons {counts between after : Counts} {accessor : String} {rest : List String} :
      Unusable target accessor counts between → PassesOver target between rest after →
      PassesOver target counts (accessor :: rest) after

/-- The first of some accessors of a value that can be called, and what calling it does: all before
it are passed over. -/
inductive FirstCallable (target : Value) (counts : Counts) (names : List String)
    (accessor : String) (call : Probe Value) (offered : Counts) : Prop
  | mk {before behind : List String} {reached : Counts} {found : Attribute} :
      names = before ++ accessor :: behind → PassesOver target counts before reached →
      readAttribute target accessor reached = (.ok found, offered) →
      callAttribute? found [] = some call →
      FirstCallable target counts names accessor call offered

/-- What is made of the outcome of an accessor: an ordinary failure is the cause of a failure of
binding, and an interruption stays as it is. -/
def reported (target : Value) (accessor : String) : Except Failure Value → Except Failure Value
  | .ok v => .ok v
  | .error raised =>
    .error (if raised.isOrdinary then
      .binding (.accessorFailed target.typeName accessor raised.toCause) else raised)

/-- How the member of a value with a name is found, from some counts to others, and which accessors
are called for it. -/
inductive Settles (convention : AccessorConvention) (target : Value) (name : String)
    (counts : Counts) : Except Failure Value → Counts → List String → Prop
  /-- The field decides. -/
  | field {v : Value} {after : Counts} :
      ReadsField target name counts (some v) after →
      Settles convention target name counts (.ok v) after []
  /-- The first accessor that can be called decides. -/
  | accessor {unread offered : Counts} {accessor : String} {call : Probe Value} :
      ReadsField target name counts none unread →
      FirstCallable target unread (convention.accessorNames name) accessor call offered →
      Settles convention target name counts (reported target accessor (call offered).1)
        (call offered).2 [accessor]
  /-- There is neither a field nor an accessor that can be called. -/
  | nothing {unread after : Counts} :
      ReadsField target name counts none unread →
      PassesOver target unread (convention.accessorNames name) after →
      Settles convention target name counts
        (.error (.binding (.noMember name target.typeName (convention.accessorNames name))))
        after []

/-! ## Calls -/

/-- The accessor that is called. -/
def Inquiry.called? : Inquiry → Option String
  | .call _ name => some name
  | _ => none

/-- The accessors that are called, in order. -/
def called (asked : List Inquiry) : List String := asked.filterMap Inquiry.called?

@[simp]
theorem called_append (asked more : List Inquiry) :
    called (asked ++ more) = called asked ++ called more := List.filterMap_append

/-- A watched probe calls so many accessors at most. -/
def CallsAtMost (n : Nat) (w : Watched α) : Prop :=
  ∀ counts before, ∃ asked, (w (counts, before)).2.2 = before ++ asked ∧ (called asked).length ≤ n

section CallsAtMost

variable {m n : Nat} {w : Watched α} {f : α → Watched β}

theorem callsAtMost_pure (a : α) : CallsAtMost 0 (pure a : Watched α) :=
  fun _ before => ⟨[], (List.append_nil before).symm, Nat.le_refl 0⟩

theorem callsAtMost_throw (failure : Failure) : CallsAtMost 0 (throw failure : Watched α) :=
  fun _ before => ⟨[], (List.append_nil before).symm, Nat.le_refl 0⟩

/-- Reading calls nothing. -/
theorem callsAtMost_read {inquiry : Inquiry} (h : inquiry.called? = none) (x : Probe α) :
    CallsAtMost 0 (.ask inquiry x) :=
  fun _ _ => ⟨[inquiry], rfl, by simp [called, h]⟩

theorem callsAtMost_ask (inquiry : Inquiry) (x : Probe α) : CallsAtMost 1 (.ask inquiry x) :=
  fun _ _ => ⟨[inquiry], rfl, List.length_filterMap_le _ _⟩

theorem CallsAtMost.mono (h : CallsAtMost m w) (hle : m ≤ n) : CallsAtMost n w := by
  intro counts before
  obtain ⟨asked, hasked, hcalled⟩ := h counts before
  exact ⟨asked, hasked, Nat.le_trans hcalled hle⟩

theorem CallsAtMost.bind (hw : CallsAtMost m w) (hf : ∀ a, CallsAtMost n (f a)) :
    CallsAtMost (m + n) (w >>= f) := by
  intro counts before
  obtain ⟨asked, hasked, hcalled⟩ := hw counts before
  rcases hrun : w (counts, before) with ⟨failure | a, between, written⟩
  · rw [hrun] at hasked
    rw [Act.bind_run_error hrun]
    exact ⟨asked, hasked, by omega⟩
  · rw [hrun] at hasked
    obtain rfl : written = before ++ asked := hasked
    obtain ⟨more, hmore, hlater⟩ := hf a between (before ++ asked)
    rw [Act.bind_run_ok hrun]
    refine ⟨asked ++ more, by rw [hmore, List.append_assoc], ?_⟩
    rw [called_append, List.length_append]
    omega

theorem CallsAtMost.length_le (h : CallsAtMost n w) (counts : Counts) :
    (called (w.inquiries counts)).length ≤ n := by
  obtain ⟨asked, hasked, hcalled⟩ := h counts []
  rw [Watched.inquiries, hasked, List.nil_append]
  exact hcalled

end CallsAtMost

theorem callsAtMost_watchAccessors (target : Value) (names : List String) :
    CallsAtMost 1 (watchAccessors target names) := by
  induction names with
  | nil => exact (callsAtMost_pure none).mono (Nat.zero_le 1)
  | cons accessor rest ih =>
    have hrest : CallsAtMost (0 + 1) (watchAccessors target (accessor :: rest)) := by
      refine (callsAtMost_read rfl _).bind fun found => ?_
      cases found with
      | none => exact ih
      | some found =>
        dsimp only
        cases callAttribute? found [] with
        | none => exact ih
        | some call => exact (callsAtMost_ask _ _).bind fun v => callsAtMost_pure (some v)
    exact hrest

theorem callsAtMost_watchMember (convention : AccessorConvention) (target : Value)
    (name : String) : CallsAtMost 1 (watchMember convention target name) := by
  have hmember : CallsAtMost (0 + (1 + 0)) (watchMember convention target name) := by
    refine (callsAtMost_read rfl _).bind fun found => ?_
    cases found with
    | some v => exact (callsAtMost_pure v).mono (Nat.zero_le 1)
    | none =>
      refine (callsAtMost_watchAccessors target _).bind fun answer => ?_
      cases answer with
      | some v => exact callsAtMost_pure v
      | none => exact callsAtMost_throw _
  exact hmember

theorem callsAtMost_watchPath (v : Value) (path : List String) :
    CallsAtMost path.length (watchPath convention v path) := by
  induction path generalizing v with
  | nil => exact callsAtMost_pure v
  | cons name rest ih =>
    have hstep : CallsAtMost 1 (watchStep convention v name) := by
      by_cases hv : v = .none
      · subst hv
        exact (callsAtMost_pure Value.none).mono (Nat.zero_le 1)
      · rw [watchStep_of_ne hv]
        exact callsAtMost_watchMember convention v name
    rw [watchPath, List.foldlM_cons]
    exact (hstep.bind ih).mono (Nat.le_of_eq (Nat.add_comm 1 rest.length))

theorem callsAtMost_watchResolve (p : Placeholder) (arguments : List Value) :
    CallsAtMost p.path.length (watchResolve convention p arguments) := by
  unfold watchResolve
  split
  · exact callsAtMost_watchPath _ _
  · exact (callsAtMost_throw _).mono (Nat.zero_le _)

/-! ## Runs of a lookup -/

section Runs

variable {x : Probe α}

theorem unlessMissing_run_ok {a : α} (h : x counts = (.ok a, after)) :
    unlessMissing x counts = (.ok (some a), after) := by
  have hattempt : x.attempt counts = (.ok (.ok a), after) := by rw [Probe.attempt_run, h]
  rw [unlessMissing, Act.bind_run_ok hattempt]
  rfl

theorem unlessMissing_run_missing {failure : Failure} (h : x counts = (.error failure, after))
    (hkind : failure.kind = .missingAttribute) : unlessMissing x counts = (.ok none, after) := by
  have hattempt : x.attempt counts = (.ok (.error failure), after) := by
    rw [Probe.attempt_run, h]
  rw [unlessMissing, Act.bind_run_ok hattempt]
  dsimp only
  rw [if_pos hkind]
  rfl

theorem callAccessor_run (target : Value) (accessor : String) (call : Probe Value)
    (counts : Counts) :
    callAccessor target accessor call counts =
      (reported target accessor (call counts).1, (call counts).2) := by
  rcases h : call counts with ⟨failure | v, after⟩
  · have hattempt : call.attempt counts = (.ok (.error failure), after) := by
      rw [Probe.attempt_run, h]
    rw [callAccessor, Act.bind_run_ok hattempt]
    by_cases hordinary : failure.isOrdinary = true
    · simp only [reported, if_pos hordinary]
      rfl
    · simp only [reported, if_neg hordinary]
      rfl
  · have hattempt : call.attempt counts = (.ok (.ok v), after) := by rw [Probe.attempt_run, h]
    rw [callAccessor, Act.bind_run_ok hattempt]
    rfl

end Runs

/-- Reading an attribute of a value fails in no other way than that the attribute is missing. -/
def ReadsQuietly (target : Value) : Prop :=
  ∀ read failure, MayFail (readAttribute target read) failure → failure.kind = .missingAttribute

/-- Nothing fails when a value is asked what it is, and what is found under a name in it. -/
structure Answers (target : Value) (name : String) : Prop where
  /-- It tells whether it is a mapping. -/
  mapping : ∀ failure, ¬ MayFail (tellsMapping target) failure
  /-- If it tells that it is one, it has or has not the key. -/
  key : MayGive (tellsMapping target) true → ∀ failure, ¬ MayFail (keyed? target name) failure
  /-- The value that is found tells whether it is a method. -/
  value : ∀ found, MayGive (readAttribute target name) found →
    ∀ failure, ¬ MayFail (fieldOf? found) failure

section Plain

variable {b : Blueprint Value} {fields : List (String × Value)}

/-- An object that computes none of its attributes is read quietly. -/
theorem readsQuietly_object (hmembers : ∀ entry ∈ b.members, ∀ r, entry.2 ≠ .property r)
    (hall : special? b "__getattribute__" = none) (hother : special? b "__getattr__" = none) :
    ReadsQuietly (.object b fields) := by
  intro name failure hfails
  rw [readAttribute] at hfails
  unfold objectAttribute at hfails
  extract_lets self read run own found at hfails
  have hown : MayFail own failure := by
    unfold found at hfails
    rw [hother, hall] at hfails
    exact hfails
  unfold own at hown
  split at hown
  case h_1 r hmember =>
    exact absurd rfl (hmembers (name, .property r) (mem_of_lookup hmember) r)
  · split at hown
    · exact absurd hown (not_mayFail_pure _)
    · exact absurd hown (not_mayFail_pure _)
    · exact absurd hown (not_mayFail_pure _)
    · rw [hown.eq_of_throw]
      rfl

end Plain

/-- The field that an attribute is, when its value does not tell its class. -/
theorem fieldOf_of_silent {found : Attribute}
    (h : ∀ v, found.field? = some v → tellsClass v = false) :
    fieldOf? found = pure found.field? := by
  unfold fieldOf?
  cases hfield : found.field? with
  | none => rfl
  | some v =>
    dsimp only
    rw [tells_of_silent (h v hfield), tells_of_silent (h v hfield)]
    rfl

/-- Values that do not tell their class themselves are not asked for it. -/
theorem answers_of_silent (htarget : tellsClass target = false)
    (hvalue : ∀ found, MayGive (readAttribute target name) found →
      ∀ v, found.field? = some v → tellsClass v = false) : Answers target name where
  mapping _ := by
    rw [tellsMapping_of_silent htarget]
    exact not_mayFail_pure false
  key htold := by
    rw [tellsMapping_of_silent htarget] at htold
    cases htold.eq_of_pure
  value found hfound _ := by
    rw [fieldOf_of_silent (hvalue found hfound)]
    exact not_mayFail_pure _

theorem exists_readsField (hasked : Answers target name) (hreads : ReadsQuietly target)
    (counts : Counts) :
    ∃ found after, field? target name counts = (.ok found, after) ∧
      ReadsField target name counts found after := by
  unfold field?
  cases hentries : target.entries? with
  | some entries => exact ⟨_, _, rfl, .key hentries⟩
  | none =>
    dsimp only
    rcases htyped : tellsMapping target counts with ⟨failure | isMapping, typed⟩
    · exact absurd ⟨counts, typed, htyped⟩ (hasked.mapping failure)
    · rw [Act.bind_run_ok htyped]
      cases isMapping with
      | true =>
        rcases hheld : keyed? target name typed with ⟨failure | held, after⟩
        · exact absurd ⟨typed, after, hheld⟩ (hasked.key ⟨counts, typed, htyped⟩ failure)
        · exact ⟨held, after, hheld, .told hentries htyped hheld⟩
      | false =>
        rcases hread : readAttribute target name typed with ⟨failure | found, read⟩
        · have hmissing :=
            unlessMissing_run_missing hread (hreads name failure ⟨typed, read, hread⟩)
          exact ⟨none, read, Act.bind_run_ok hmissing, .missing hentries htyped hread⟩
        · rcases hfield : fieldOf? found read with ⟨failure | field, after⟩
          · exact absurd ⟨read, after, hfield⟩ (hasked.value found ⟨typed, read, hread⟩ failure)
          · exact ⟨field, after, (Act.bind_run_ok (unlessMissing_run_ok hread)).trans hfield,
              .attribute hentries htyped hread hfield⟩

/-- An accessor that cannot be used leaves the first one that can be called the first one. -/
theorem FirstCallable.cons {between offered : Counts} {names : List String} {accessor : String}
    {call : Probe Value} (hunusable : Unusable target name counts between)
    (h : FirstCallable target between names accessor call offered) :
    FirstCallable target counts (name :: names) accessor call offered := by
  obtain ⟨rfl, hpassed, hread, hcall⟩ := h
  exact .mk rfl (.cons hunusable hpassed) hread hcall

/-- An accessor that cannot be used is looked for and left; any other one is called. -/
theorem watchAccessors_cons_cases (hreads : ReadsQuietly target) (name : String)
    (rest : List String) (counts : Counts) (before : List Inquiry) :
    (∃ between, Unusable target name counts between ∧
      watchAccessors target (name :: rest) (counts, before) =
        watchAccessors target rest (between, before ++ [.accessor target name])) ∨
    ∃ found call offered, readAttribute target name counts = (.ok found, offered) ∧
      callAttribute? found [] = some call ∧
      watchAccessors target (name :: rest) (counts, before) =
        ((reported target name (call offered).1).map some, (call offered).2,
          before ++ [.accessor target name, .call target name]) := by
  have hasked : ∀ {outcome between},
      unlessMissing (readAttribute target name) counts = (outcome, between) →
      Watched.ask (.accessor target name) (unlessMissing (readAttribute target name))
          (counts, before) = (outcome, between, before ++ [.accessor target name]) :=
    fun h => by rw [Watched.ask_run, h]
  rcases hread : readAttribute target name counts with ⟨failure | found, between⟩
  · have hmissing :=
      unlessMissing_run_missing hread (hreads name failure ⟨counts, between, hread⟩)
    exact .inl ⟨between, .missing hread, Act.bind_run_ok (hasked hmissing)⟩
  · have hrun : watchAccessors target (name :: rest) (counts, before) = _ :=
      Act.bind_run_ok (hasked (unlessMissing_run_ok hread))
    dsimp only at hrun
    cases hcall : callAttribute? found [] with
    | none =>
      rw [hcall] at hrun
      exact .inl ⟨between, .uncallable hread hcall, hrun⟩
    | some call =>
      refine .inr ⟨found, call, between, rfl, hcall, ?_⟩
      rw [hrun, hcall]
      dsimp only
      rw [Act.map_run, Watched.ask_run, callAccessor_run, List.append_assoc]
      rfl

/-- All accessors are passed over, or those before the first one that can be called. -/
theorem watchAccessors_cases (hreads : ReadsQuietly target) (names : List String)
    (counts : Counts) (before : List Inquiry) :
    (∃ after asked, watchAccessors target names (counts, before) =
        (.ok none, after, before ++ asked) ∧
      called asked = [] ∧ PassesOver target counts names after) ∨
    ∃ accessor call offered asked, watchAccessors target names (counts, before) =
        ((reported target accessor (call offered).1).map some, (call offered).2,
          before ++ asked) ∧
      called asked = [accessor] ∧
      FirstCallable target counts names accessor call offered := by
  induction names generalizing counts before with
  | nil => exact .inl ⟨counts, [], by rw [List.append_nil]; rfl, rfl, .nil⟩
  | cons name rest ih =>
    rcases watchAccessors_cons_cases hreads name rest counts before with
      ⟨between, hunusable, hrun⟩ | ⟨found, call, offered, hread, hcall, hrun⟩
    · rcases ih between (before ++ [.accessor target name]) with
        ⟨after, asked, hrest, hcalled, hpassed⟩ |
        ⟨accessor, call, offered, asked, hrest, hcalled, hfirst⟩
      · refine .inl ⟨after, .accessor target name :: asked, ?_, hcalled,
          .cons hunusable hpassed⟩
        rw [hrun, hrest, List.append_assoc, List.singleton_append]
      · refine .inr ⟨accessor, call, offered, .accessor target name :: asked, ?_, hcalled,
          .cons hunusable hfirst⟩
        rw [hrun, hrest, List.append_assoc, List.singleton_append]
    · exact .inr ⟨name, call, offered, [.accessor target name, .call target name], hrun, rfl,
        .mk (List.nil_append (name :: rest)).symm .nil hread hcall⟩

/-- A watched lookup finds a member as fields and accessors decide. -/
theorem settles_watchMember (hasked : Answers target name) (hreads : ReadsQuietly target)
    (convention : AccessorConvention) (counts : Counts) :
    ∃ outcome after asked calls,
      watchMember convention target name (counts, []) = (outcome, after, asked) ∧
      called asked = calls ∧ Settles convention target name counts outcome after calls := by
  obtain ⟨found, unread, hfield, hreadsField⟩ := exists_readsField hasked hreads counts
  have hrun : watchMember convention target name (counts, []) = _ :=
    Act.bind_run_ok (by rw [Watched.ask_run, hfield])
  cases found with
  | some v => exact ⟨_, _, _, _, hrun, rfl, .field hreadsField⟩
  | none =>
    dsimp only at hrun
    rcases watchAccessors_cases hreads (convention.accessorNames name) unread
        [.field target name] with
      ⟨after, asked, hrest, hcalled, hpassed⟩ |
      ⟨accessor, call, offered, asked, hrest, hcalled, hfirst⟩
    · exact ⟨_, after, .field target name :: asked, [], hrun.trans (Act.bind_run_ok hrest),
        hcalled, .nothing hreadsField hpassed⟩
    · refine ⟨_, _, .field target name :: asked, [accessor], ?_, hcalled,
        .accessor hreadsField hfirst⟩
      rw [hrun]
      rcases hcall : reported target accessor (call offered).1 with failure | v
      · rw [hcall] at hrest
        exact Act.bind_run_error hrest
      · rw [hcall] at hrest
        exact Act.bind_run_ok hrest

/-- The member of a value that answers when it is asked what it is, and whose attributes are read
quietly, is found as fields and accessors decide: a field is the member, and nothing is called; else
the accessors are tried in the order of their names, the first one that can be called is the only
one called, and its answer or its failure is the outcome; else there is no member.  So following a
path calls no more accessors than the path has members. -/
theorem member_settled (hasked : Answers target name) (hreads : ReadsQuietly target)
    (convention : AccessorConvention) (counts : Counts) :
    (∃ calls, called ((watchMember convention target name).inquiries counts) = calls ∧
      Settles convention target name counts (member target name convention counts).1
        (member target name convention counts).2 calls) ∧
    convention.accessorNames name =
      (convention.prefixes.map fun start =>
        start ++ String.ofList (AccessorConvention.capitalize name.toList)) ++
      (if convention.snakeCase then
        convention.prefixes.map fun start => start ++ "_" ++ name else []) ∧
    ∀ (p : Placeholder) (arguments : List Value) (activity : Activity),
      let watched := watchResolve convention p arguments
      (watched (activity.counts, [])).1 = (resolve convention p arguments activity).1 ∧
        (watched (activity.counts, [])).2.1 = (resolve convention p arguments activity).2.counts ∧
        (called (watched.inquiries activity.counts)).length ≤ p.path.length := by
  refine ⟨?_, ?_, fun p arguments activity => ?_⟩
  · obtain ⟨outcome, after, asked, calls, hrun, hcalled, hsettles⟩ :=
      settles_watchMember hasked hreads convention counts
    have hwatched := (watches_watchMember convention target name).run counts []
    rw [hrun, List.nil_append] at hwatched
    obtain ⟨houtcome, hleft⟩ := Prod.mk.inj hwatched
    obtain ⟨hafter, hasked⟩ := Prod.mk.inj hleft
    refine ⟨calls, hasked ▸ hcalled, ?_⟩
    rw [← houtcome, ← hafter]
    exact hsettles
  · rw [AccessorConvention.accessorNames]
    by_cases hsnake : convention.snakeCase = true
    · rw [if_pos hsnake, if_pos hsnake]
    · rw [if_neg hsnake, if_neg hsnake, List.append_nil]
  · obtain ⟨hsame, hcounts⟩ := watchResolve_run convention p arguments activity
    exact ⟨hsame, hcounts, (callsAtMost_watchResolve p arguments).length_le _⟩

/-- An object with a method that needs no operands, and with fields. -/
def objectWith (members : List (String × Member Value)) (fields : List (String × Value)) : Value :=
  .object { name := "A", members, slots := [], call := none } fields

/-- A method that needs no operands besides its object. -/
def plainMethod (name : String) (action : Action Value) : String × Member Value :=
  (name, .method { name, title := "A." ++ name, receives := true, parameters := [], action })

/-- An account that owns nothing, with an accessor that cannot be called and two that can: its owner
is found though it is nothing, and of the accessors the first one that can be called runs, once. -/
theorem member_settled_owner_and_next :
    let account := objectWith [("getNext", .value (.int 7)), plainMethod "isNext" (.count 0),
      plainMethod "get_next" (.count 0), plainMethod "getOwner" (.count 0)] [("owner", .none)]
    (Answers account "owner" ∧ Answers account "next" ∧ ReadsQuietly account) ∧
      (∃ after, Settles {} account "owner" (fun _ => 0) (.ok .none) after []) ∧
      ∃ after, after 0 = 1 ∧
        Settles {} account "next" (fun _ => 0) (.ok (.int 1)) after ["isNext"] := by
  intro account
  have howned : Answers account "owner" := by
    refine answers_of_silent rfl fun found hfound v hv => ?_
    have hread : readAttribute account "owner" = pure (.value .none) := rfl
    rw [hread] at hfound
    obtain rfl := hfound.eq_of_pure
    obtain rfl := Option.some.inj hv
    rfl
  have hnext : Answers account "next" :=
    answers_of_silent rfl fun _ hfound => absurd hfound (not_mayGive_throw (σ := Counts))
  have hreads : ReadsQuietly account :=
    readsQuietly_object (by simp [plainMethod]) rfl rfl
  obtain ⟨⟨calls, hcalled, howner⟩, -⟩ := member_settled howned hreads {} fun _ => 0
  obtain rfl : [] = calls := hcalled
  obtain ⟨⟨calls, hcalled, hcounted⟩, -⟩ := member_settled hnext hreads {} fun _ => 0
  obtain rfl : ["isNext"] = calls := hcalled
  exact ⟨⟨howned, hnext, hreads⟩, ⟨_, howner⟩, _, rfl, hcounted⟩

/-- What a type's member for its objects' class does. -/
def classMember (action : Action Value) : String × Member Value :=
  ("__class__", .property
    { name := "__class__", title := "A.__class__", receives := true, parameters := [], action })

/-- An accessor that is interrupted leaves the lookup interrupted: no failure of binding is
reported.  An object that refuses all attributes, its class too, refuses the lookup in the same
way.  So does one whose field has a value that fails to tell its class, and one that tells that it
is a dictionary, but does not hold keys. -/
theorem member_interrupted_and_refused :
    let interrupted := objectWith [plainMethod "getX" (.fail .interrupt "stop")] []
    let refusing := objectWith [("__getattribute__", .method
      { name := "__getattribute__", title := "A.__getattribute__", receives := true
        parameters := ["name"], action := .fail .missingAttribute "none" })] []
    let owning := objectWith [] [("x", objectWith [classMember (.fail .runtime "hidden")] [])]
    let pretending :=
      objectWith [("__class__", .value (.meaning (.type "dict")))] [("x", .int 1)]
    (ReadsQuietly interrupted ∧
      called ((watchMember {} interrupted "x").inquiries fun _ => 0) = ["getX"] ∧
      (member interrupted "x" {} fun _ => 0).1 = .error (.raised .interrupt "stop")) ∧
    (ReadsQuietly refusing ∧
      (member refusing "x" {} fun _ => 0).1 = .error (.raised .missingAttribute "none")) ∧
    (ReadsQuietly owning ∧
      (member owning "x" {} fun _ => 0).1 = .error (.raised .runtime "hidden")) ∧
    ReadsQuietly pretending ∧
      (member pretending "x" {} fun _ => 0).1 =
        .error (.elementary .wrongType "argument of type 'A' is not iterable") := by
  intro interrupted refusing owning pretending
  have hinterrupted : ReadsQuietly interrupted :=
    readsQuietly_object (by simp [plainMethod]) rfl rfl
  have hrefusing : ReadsQuietly refusing := by
    rintro read failure ⟨counts, after, hrun⟩
    have hraised : readAttribute refusing read counts =
        (.error (.raised .missingAttribute "none"), counts) := rfl
    rw [hraised] at hrun
    cases hrun
    rfl
  have howning : ReadsQuietly owning := readsQuietly_object (by simp) rfl rfl
  have hpretending : ReadsQuietly pretending := readsQuietly_object (by simp) rfl rfl
  exact ⟨⟨hinterrupted, rfl, rfl⟩, ⟨hrefusing, rfl⟩, ⟨howning, rfl⟩, hpretending, rfl⟩

end Lookup
end BoundUpdate
