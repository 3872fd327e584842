import BoundUpdate.Proofs.Query.Turns
import Mathlib.Algebra.GroupWithZero.Nat

namespace BoundUpdate
namespace Query

/-!
# The life of a query

Over all its uses, a query builds its unit at most once and finds its convention
at most once, and the calls of its methods run on that one unit.  The first use
that closes it closes the connection of its client; from then on calls that fit
are refused, and nothing is done any more.

Uses are followed by the traces that they find and leave.  Nothing is said of
what happens between two uses, so others may work in the meantime.
-/

/-- Successive uses of a query, and what it is after them. -/
inductive Life : Query → List Turn → Query → Prop
  | done {q : Query} : Life q [] q
  | turn {q q' final : Query} {first : Turn} {later : List Turn} :
      first.use.run q first.before = (.ok (q', first.answer), first.after) →
      Life q' later final → Life q (first :: later) final

/-- Successive turns of a query with their deeds, and what it is after them. -/
inductive History : Query → List (Turn × List Deed) → Query → Prop
  | done {q : Query} : History q [] q
  | step {q q' final : Query} {turn : Turn} {deeds : List Deed}
      {later : List (Turn × List Deed)} :
      q.Step turn deeds q' → History q' later final → History q ((turn, deeds) :: later) final

/-- How often a connection is closed in a turn. -/
def Turn.closings (turn : Turn) : Nat :=
  (turn.after.events.drop turn.before.events.length).countP Event.isClosing

/-- All deeds of some turns. -/
def deedsOf (history : List (Turn × List Deed)) : List Deed := history.flatMap Prod.snd

/-- The units that a query had or has built. -/
def unitsOf (q : Query) (deeds : List Deed) : List ExecutionUnit :=
  q.unit?.toList ++ deeds.filterMap Deed.built?

/-- The conventions that a query had or has found. -/
def conventionsOf (q : Query) (deeds : List Deed) : List AccessorConvention :=
  q.convention?.toList ++ deeds.filterMap Deed.told?

/-- The turns of a query are in order. -/
structure Orderly (q : Query) (history : List (Turn × List Deed)) : Prop where
  /-- The deeds of a turn are all that it does. -/
  did : ∀ entry ∈ history, Did q.client entry.2 entry.1.before entry.1.after
  /-- Up to the first use that closes the query, turns are those of an open query. -/
  opened : ∀ earlier turn deeds later, history = earlier ++ (turn, deeds) :: later →
    (∀ entry ∈ earlier, entry.1.use.closes = false) →
    OpenTurn q.typeName q.client turn.use deeds turn.answer
  /-- After that, nothing is done, and calls that fit are refused. -/
  refused : ∀ earlier turn deeds later, history = earlier ++ (turn, deeds) :: later →
    (∃ entry ∈ earlier, entry.1.use.closes = true) →
    deeds = [] ∧ turn.after = turn.before ∧ ClosedTurn q.typeName turn.use turn.answer
  built_once : (q.unitsOf (deedsOf history)).length ≤ 1
  told_once : (q.conventionsOf (deedsOf history)).length ≤ 1
  /-- Updates are run by the one unit, with the one convention. -/
  invoked : ∀ u spec convention arguments answer,
    Deed.invoke u spec convention arguments answer ∈ deedsOf history →
    u ∈ q.unitsOf (deedsOf history) ∧ convention ∈ q.conventionsOf (deedsOf history)
  /-- A connection is closed once if there is one and the query is closed, and never otherwise. -/
  closings : (∀ u, q.unit? = some u → u.IsSparing) →
    (history.map fun entry => entry.1.closings).sum =
      if history.any fun entry => entry.1.use.closes then
        (q.client.bind Client.connection).toList.length
      else 0

variable {q q' final : Query} {turn : Turn} {turns : List Turn} {deeds : List Deed}
  {history : List (Turn × List Deed)}

theorem Step.canWork (h : q.Step turn deeds q') (hq : q.CanWork) : q'.CanWork := by
  rcases hq with hunit | hclient
  · obtain ⟨u, hu⟩ := Option.isSome_iff_exists.1 hunit
    have hunits := h.units
    rw [hu] at hunits
    cases hunit' : q'.unit? with
    | some u' => exact .inl (by rw [hunit']; rfl)
    | none =>
      rw [hunit'] at hunits
      cases hunits
  · exact .inr (by rwa [h.client])

/-- Any uses can be made of a query one after another. -/
theorem exists_life (hq : q.CanWork) (uses : List (Use × Activity)) :
    ∃ turns final, Life q turns final ∧
      turns.map (fun turn => (turn.use, turn.before)) = uses := by
  induction uses generalizing q with
  | nil => exact ⟨[], q, .done, rfl⟩
  | cons first later ih =>
    obtain ⟨use, before⟩ := first
    obtain ⟨deeds, q', answer, after, hrun, hstep⟩ := exists_step hq use before
    obtain ⟨turns, final, hlife, huses⟩ := ih (hstep.canWork hq)
    exact ⟨⟨use, before, answer, after⟩ :: turns, final, .turn hrun hlife,
      congrArg ((use, before) :: ·) huses⟩

/-- A life can be told by deeds. -/
theorem exists_history (hq : q.CanWork) (h : Life q turns final) :
    ∃ history, history.map Prod.fst = turns ∧ History q history final := by
  induction h with
  | done => exact ⟨[], rfl, .done⟩
  | @turn q q' final first later hrun _ ih =>
    obtain ⟨deeds, q'', answer, after, hrun', hstep⟩ := exists_step hq first.use first.before
    rw [hrun] at hrun'
    cases hrun'
    obtain ⟨history, hturns, hhistory⟩ := ih (hstep.canWork hq)
    exact ⟨(first, deeds) :: history, by rw [List.map_cons, hturns], .step hstep hhistory⟩

/-! ## Deeds of a life -/

theorem deedsOf_cons (turn : Turn) (deeds : List Deed) (later : List (Turn × List Deed)) :
    deedsOf ((turn, deeds) :: later) = deeds ++ deedsOf later := rfl

theorem History.client (h : History q history final) : final.client = q.client := by
  induction h with
  | done => rfl
  | step hstep _ ih => exact ih.trans hstep.client

theorem History.typeName (h : History q history final) : final.typeName = q.typeName := by
  induction h with
  | done => rfl
  | step hstep _ ih => exact ih.trans hstep.typeName

theorem History.closed (h : History q history final) :
    final.closed = (q.closed || history.any fun entry => entry.1.use.closes) := by
  induction h with
  | done => exact (Bool.or_false _).symm
  | step hstep _ ih => rw [ih, hstep.closed, List.any_cons, Bool.or_assoc]

theorem History.units (h : History q history final) :
    final.unit?.toList = q.unitsOf (deedsOf history) := by
  induction h with
  | done => exact (List.append_nil _).symm
  | step hstep _ ih =>
    rw [ih, unitsOf, unitsOf, hstep.units, deedsOf_cons, List.filterMap_append, List.append_assoc]

theorem History.conventions (h : History q history final) :
    final.convention?.toList = q.conventionsOf (deedsOf history) := by
  induction h with
  | done => exact (List.append_nil _).symm
  | step hstep _ ih =>
    rw [ih, conventionsOf, conventionsOf, hstep.conventions, deedsOf_cons, List.filterMap_append,
      List.append_assoc]

/-- What runs an update is still there in the end. -/
theorem History.invoked (h : History q history final) {u : ExecutionUnit} {spec : Spec}
    {convention : AccessorConvention} {arguments : List Value} {answer : Except Failure Value}
    (hmem : Deed.invoke u spec convention arguments answer ∈ deedsOf history) :
    u ∈ final.unit?.toList ∧ convention ∈ final.convention?.toList := by
  induction h with
  | done => cases hmem
  | step hstep hlater ih =>
    rw [deedsOf_cons] at hmem
    rcases List.mem_append.1 hmem with hmem | hmem
    -- what the query has after this turn, no later turn replaces
    · obtain ⟨hunit, hconvention⟩ := hstep.invoked _ _ _ _ _ hmem
      rw [hlater.units, hlater.conventions, unitsOf, conventionsOf, hunit, hconvention]
      exact ⟨List.mem_append_left _ List.mem_cons_self, List.mem_append_left _ List.mem_cons_self⟩
    · exact ih hmem

/-- A turn within a life is a step of the query that the turns before it have left. -/
theorem History.split {earlier later : List (Turn × List Deed)}
    (h : History q (earlier ++ (turn, deeds) :: later) final) :
    ∃ q₁ q₂, History q earlier q₁ ∧ q₁.Step turn deeds q₂ ∧ History q₂ later final := by
  induction earlier generalizing q with
  | nil =>
    cases h with
    | step hstep hlater => exact ⟨_, _, .done, hstep, hlater⟩
  | cons first earlier ih =>
    cases h with
    | step hstep hrest =>
      obtain ⟨q₁, q₂, hearlier, hturn, hlater⟩ := ih hrest
      exact ⟨q₁, q₂, .step hstep hearlier, hturn, hlater⟩

/-! ## Closings -/

theorem Did.exists_done {client : Option Client} {before after : Activity} {deed : Deed}
    (h : Did client deeds before after) (hmem : deed ∈ deeds) :
    ∃ before after, deed.Done client before after := by
  induction h with
  | nothing => cases hmem
  | next hdone _ ih =>
    rcases List.mem_cons.1 hmem with rfl | hmem
    · exact ⟨_, _, hdone⟩
    · exact ih hmem

/-- Unless a unit does it, only closing the connection closes one. -/
theorem Deed.Done.closings {client : Option Client} {before after : Activity} {deed : Deed}
    (h : deed.Done client before after)
    (hsparing : ∀ u spec convention arguments answer,
      deed = .invoke u spec convention arguments answer → u.IsSparing) :
    ∃ events, after.events = before.events ++ events ∧
      events.countP Event.isClosing = if deed.isClose then 1 else 0 := by
  cases deed with
  | build built =>
    obtain ⟨c, -, hbuild⟩ := h
    exact ⟨[], by rw [c.keepsEvents_unit.events_eq hbuild, List.append_nil], rfl⟩
  | consult told =>
    exact ⟨[], by rw [Settings.keepsEvents_current.events_eq h, List.append_nil], rfl⟩
  | invoke u spec convention arguments answer =>
    obtain ⟨events, hevents, hnone⟩ := Invocation.spares_call
      (hsparing u spec convention arguments answer rfl) spec convention arguments before
    have hrun : Invocation.call spec convention u arguments before = (answer, after) := h
    rw [hrun] at hevents
    refine ⟨events, hevents, ?_⟩
    rw [List.countP_eq_zero.2 fun e he => by rw [hnone e he]; exact Bool.false_ne_true]
    rfl
  | close connection closed =>
    obtain ⟨-, between, records, hclose, rfl⟩ := h
    have hevents : (connection.close before).2.events = before.events ++ [.closeConnection] := by
      rw [Connection.close, Act.bind_run_ok (Act.observe_run _ _),
        Connection.keepsEvents_failWith]
    rw [hclose] at hevents
    exact ⟨[.closeConnection], hevents, rfl⟩

theorem Did.closings {client : Option Client} {before after : Activity}
    (h : Did client deeds before after)
    (hsparing : ∀ u spec convention arguments answer,
      Deed.invoke u spec convention arguments answer ∈ deeds → u.IsSparing) :
    ∃ events, after.events = before.events ++ events ∧
      events.countP Event.isClosing = deeds.countP Deed.isClose := by
  induction h with
  | nothing => exact ⟨[], (List.append_nil _).symm, rfl⟩
  | next hdone _ ih =>
    obtain ⟨events, hevents, hcount⟩ := hdone.closings fun u spec convention arguments answer heq =>
      hsparing u spec convention arguments answer (heq ▸ List.mem_cons_self)
    obtain ⟨others, hothers, hcount'⟩ := ih fun u spec convention arguments answer hmem =>
      hsparing u spec convention arguments answer (List.mem_cons_of_mem _ hmem)
    refine ⟨events ++ others, ?_, ?_⟩
    · rw [hothers, hevents, List.append_assoc]
    · rw [List.countP_append, hcount, hcount', List.countP_cons, Nat.add_comm]

theorem isClose_of_prepares {deed : Deed} (h : deed.Prepares) : deed.isClose = false := by
  cases deed with
  | close connection closed => rcases h with h | h <;> cases h
  | build built => rfl
  | consult told => rfl
  | invoke u spec convention arguments answer => rfl

/-- A turn of an open query closes a connection exactly if it closes the query and there is one. -/
theorem OpenTurn.closings {typeName : String} {client : Option Client} {use : Use}
    {answer : Except Failure Value} (h : OpenTurn typeName client use deeds answer) :
    deeds.countP Deed.isClose =
      if use.closes then (client.bind Client.connection).toList.length else 0 := by
  have hpreparing : ∀ {preparing : List Deed}, (∀ deed ∈ preparing, deed.Prepares) →
      preparing.countP Deed.isClose = 0 := fun hall =>
    List.countP_eq_zero.2 fun deed hmem => by
      rw [isClose_of_prepares (hall deed hmem)]
      exact Bool.false_ne_true
  cases h with
  | misfit _ => rfl
  | unbuilt _ => rfl
  | untold _ hall =>
    rw [List.countP_append, hpreparing hall]
    rfl
  | invoked _ hall =>
    rw [List.countP_append, hpreparing hall]
    rfl
  | unconnected huse hconnection =>
    rw [if_pos huse, hconnection]
    rfl
  | closed huse hconnection =>
    rw [if_pos huse, hconnection]
    rfl

theorem Step.sparing (h : q.Step turn deeds q') (hsparing : ∀ u, q.unit? = some u → u.IsSparing) :
    ∀ u, q'.unit? = some u → u.IsSparing := by
  intro u hunit
  have hmem : u ∈ q.unit?.toList ++ deeds.filterMap Deed.built? := by
    rw [← h.units, hunit]
    exact List.mem_cons_self
  rcases List.mem_append.1 hmem with hmem | hmem
  · exact hsparing u (Option.mem_toList.1 hmem)
  · obtain ⟨deed, hdeed, hbuilt⟩ := List.mem_filterMap.1 hmem
    obtain ⟨before, after, hdone⟩ := h.did.exists_done hdeed
    cases deed with
    | build built =>
      cases built with
      | error failure => cases hbuilt
      | ok built =>
        obtain rfl : built = u := Option.some.inj hbuilt
        obtain ⟨c, -, hbuild⟩ := hdone
        exact Client.isSparing_of_unit hbuild
    | consult told => cases hbuilt
    | invoke _ _ _ _ _ => cases hbuilt
    | close _ _ => cases hbuilt

theorem Step.closings (h : q.Step turn deeds q')
    (hsparing : ∀ u, q.unit? = some u → u.IsSparing) :
    turn.closings = if q.closed = false ∧ turn.use.closes = true then
      (q.client.bind Client.connection).toList.length else 0 := by
  -- the unit that runs an update is the one that the query holds after the turn
  obtain ⟨events, hevents, hcount⟩ := h.did.closings fun u spec convention arguments answer hmem =>
    h.sparing hsparing u (h.invoked u spec convention arguments answer hmem).1
  rw [Turn.closings, hevents, List.drop_left, hcount]
  cases hclosed : q.closed with
  | true =>
    rw [(h.refused hclosed).1]
    rfl
  | false =>
    rw [(h.opened hclosed).closings]
    simp

theorem History.closings (h : History q history final)
    (hsparing : ∀ u, q.unit? = some u → u.IsSparing) :
    (history.map fun entry => entry.1.closings).sum =
      if q.closed = false ∧ (history.any fun entry => entry.1.use.closes) = true then
        (q.client.bind Client.connection).toList.length
      else 0 := by
  induction h with
  | done => simp
  | @step q _ _ turn _ _ hstep _ ih =>
    rw [List.map_cons, List.sum_cons, ih (hstep.sparing hsparing), hstep.closings hsparing,
      hstep.closed, hstep.client, List.any_cons]
    cases q.closed <;> cases turn.use.closes <;>
      simp only [Bool.false_or, Bool.true_or, Bool.or_true, Bool.or_false, and_true, true_and,
        and_false, false_and, Bool.true_eq_false, Bool.false_eq_true, if_true, if_false,
        Nat.zero_add, Nat.add_zero]

/-! ## The whole life -/

theorem History.orderly (h : History q history final) (hopen : q.closed = false) :
    q.Orderly history where
  did entry hentry := by
    obtain ⟨earlier, later, rfl⟩ := List.append_of_mem hentry
    obtain ⟨q₁, q₂, hearlier, hstep, -⟩ := h.split
    rw [← hearlier.client]
    exact hstep.did
  opened := by
    rintro earlier turn deeds later rfl hnone
    obtain ⟨q₁, q₂, hearlier, hstep, -⟩ := h.split
    rw [← hearlier.client, ← hearlier.typeName]
    refine hstep.opened ?_
    rw [hearlier.closed, hopen, Bool.false_or, List.any_eq_false]
    exact fun entry hentry => by rw [hnone entry hentry]; exact Bool.false_ne_true
  refused := by
    rintro earlier turn deeds later rfl ⟨entry, hentry, hcloses⟩
    obtain ⟨q₁, q₂, hearlier, hstep, -⟩ := h.split
    have hclosed : q₁.closed = true := by
      rw [hearlier.closed, List.any_eq_true.2 ⟨entry, hentry, hcloses⟩, Bool.or_true]
    obtain ⟨rfl, hturn⟩ := hstep.refused hclosed
    rw [← hearlier.typeName]
    refine ⟨rfl, ?_, hturn⟩
    have hdid := hstep.did
    generalize turn.before = before, turn.after = after at hdid ⊢
    cases hdid
    rfl
  built_once := by
    rw [← h.units]
    cases final.unit? <;> simp
  told_once := by
    rw [← h.conventions]
    cases final.convention? <;> simp
  invoked _ _ _ _ _ hmem := by
    rw [← h.units, ← h.conventions]
    exact h.invoked hmem
  closings hsparing := by
    rw [h.closings hsparing]
    simp only [hopen, true_and]

/-- A new query can be used in any way, and its turns are in order. -/
theorem life_orderly {type : QueryType} {client : Option Client} {unit : Option ExecutionUnit}
    {convention : Option AccessorConvention} (hq : ofType type client unit convention = .ok q) :
    q.client = client ∧ q.unit? = unit ∧ q.convention? = convention ∧
      (∀ uses : List (Use × Activity), ∃ turns final, Life q turns final ∧
        turns.map (fun turn => (turn.use, turn.before)) = uses) ∧
      ∀ turns final, Life q turns final →
        ∃ history, history.map Prod.fst = turns ∧ q.Orderly history := by
  cases type with
  | foreign v => cases hq
  | named typeName =>
    unfold ofType make at hq
    dsimp only at hq
    split at hq
    · cases hq
    · rename_i hgiven
      cases hq
      have hwork : CanWork { typeName, client, unit? := unit, convention? := convention } := by
        unfold CanWork
        cases unit <;> cases client <;> simp_all
      refine ⟨rfl, rfl, rfl, exists_life hwork, fun turns final hlife => ?_⟩
      obtain ⟨history, hturns, hhistory⟩ := exists_history hwork hlife
      exact ⟨history, hturns, hhistory.orderly rfl⟩

/-- A query whose connection fails to close is left and used again: the failure is swallowed, the
connection is not closed a second time, and the call is refused. -/
theorem life_orderly_failing_close :
    let client : Client :=
      { connection := some { closeFailure := some (.raised .runtime "gone") } }
    let m : DeclaredMethod :=
      { name := "touch", qualifiedName := "Notes.touch", signature := [{ name := "self" }]
        spec := { template := { source := "SET a = 1", segments := [.literal "SET a = 1"] } } }
    ∃ q left called closed final,
      ofType (.named "Notes") (some client) none none = .ok q ∧
      Life q [left, called, closed] final ∧
      left.use = .leave (.ok (.int 1)) ∧ called.use = .call m [] [] ∧ closed.use = .close ∧
      left.answer = .ok (.int 1) ∧
      called.answer = .error (.configuration (.closed "Notes")) ∧ called.after = called.before ∧
      left.closings + called.closings + closed.closings = 1 := by
  intro client m
  obtain ⟨q, hq⟩ : ∃ q, ofType (.named "Notes") (some client) none none = .ok q := ⟨_, rfl⟩
  obtain ⟨hclient, hunit, -, huses, horder⟩ := life_orderly hq
  obtain ⟨turns, final, hlife, hgiven⟩ :=
    huses [(.leave (.ok (.int 1)), {}), (.call m [] [], {}), (.close, {})]
  obtain ⟨left, rest, rfl, hleft, hrest⟩ := List.map_eq_cons_iff.1 hgiven
  obtain ⟨called, rest, rfl, hcalled, hrest⟩ := List.map_eq_cons_iff.1 hrest
  obtain ⟨closed, rest, rfl, hclosed, hrest⟩ := List.map_eq_cons_iff.1 hrest
  obtain rfl := List.map_eq_nil_iff.1 hrest
  obtain ⟨hleft, hbefore⟩ := Prod.mk.inj hleft
  have hcalled : called.use = .call m [] [] := congrArg Prod.fst hcalled
  have hclosed : closed.use = .close := congrArg Prod.fst hclosed
  -- the failure is swallowed
  have hanswer : left.answer = .ok (.int 1) := by
    cases hlife with
    | turn hrun _ =>
      rw [hleft, hbefore] at hrun
      cases hq
      exact (Prod.mk.inj (Except.ok.inj (Prod.mk.inj hrun).1)).2.symm
  have htypeName : q.typeName = "Notes" := by cases hq; rfl
  obtain ⟨history, hturns, horderly⟩ := horder _ final hlife
  rcases history with
    _ | ⟨⟨left, first⟩, _ | ⟨⟨called, second⟩, _ | ⟨⟨closed, third⟩, _ | ⟨_, _⟩⟩⟩⟩ <;>
    cases hturns
  obtain ⟨-, hafter, hrefused⟩ := horderly.refused [(left, first)] called second _ rfl
    ⟨_, List.mem_cons_self, by rw [hleft]; rfl⟩
  have hcalledAnswer : called.answer = .error (.configuration (.closed "Notes")) := by
    rw [htypeName, hcalled] at hrefused
    generalize called.answer = answer at hrefused
    cases hrefused with
    | misfit hfitted => cases hfitted
    | refused _ => rfl
    | again huse => cases huse
  have hsum := horderly.closings fun u hu => by rw [hunit] at hu; cases hu
  have hcloses : [(left, first), (called, second), (closed, third)].any
      (fun entry => entry.1.use.closes) = true :=
    List.any_eq_true.2 ⟨(left, first), List.mem_cons_self, by rw [hleft]; rfl⟩
  rw [if_pos hcloses, hclient] at hsum
  have hone : left.closings + (called.closings + (closed.closings + 0)) = 1 := hsum
  exact ⟨q, left, called, closed, final, hq, hlife, hleft, hcalled, hclosed, hanswer,
    hcalledAnswer, hafter, by omega⟩

end Query
end BoundUpdate
