import BoundUpdate.Proofs.Backend.Sparing
import BoundUpdate.Query

namespace BoundUpdate
namespace Query

/-!
# One use of a query

A query is used by calling declared methods on it, by closing it and by leaving
the work with it.  A use consists of deeds: the unit is built from the client,
the settings are consulted, a unit runs an update, the connection is closed.
Nothing else that a use does leaves traces, so the deeds of a use tell what it
did.  An open query keeps a unit and a convention once it has them; a closed one
does nothing any more.
-/

/-- A use of a query. -/
inductive Use where
  | call (m : DeclaredMethod) (values : List Value) (named : Named)
  | close
  /-- The work with the query has ended with an outcome. -/
  | leave (outcome : Except Failure Value)

namespace Use

/-- Whether a use closes the query. -/
def closes : Use → Bool
  | .call _ _ _ => false
  | .close => true
  | .leave _ => true

/-- What a closing answers if the connection does not prevent it. -/
def closedAnswer : Use → Except Failure Value
  | .leave outcome => outcome
  | _ => .ok .none

/-- Use a query. -/
def run (use : Use) (q : Query) : Act (After Value) :=
  match use with
  | .call m values named => q.call m values named
  | .close => do
    let (q, outcome) ← q.close
    return (q, outcome.map fun _ => .none)
  | .leave outcome => q.during fun q => pure (q, outcome)

end Use

/-- What a use of a query does, with its outcome. -/
inductive Deed where
  /-- The unit is built from the client. -/
  | build (built : Except Failure ExecutionUnit)
  /-- The settings are consulted for the convention that names accessors. -/
  | consult (told : Except Failure HeldSettings)
  /-- A unit runs an update. -/
  | invoke (u : ExecutionUnit) (spec : Spec) (convention : AccessorConvention)
      (arguments : List Value) (answer : Except Failure Value)
  /-- The connection of the client is closed. -/
  | close (connection : Connection) (closed : Except Failure Unit)

namespace Deed

/-- A deed leads from some traces to others.  Closing a connection is noted. -/
def Done (client : Option Client) (before after : Activity) : Deed → Prop
  | .build built => ∃ c, client = some c ∧ c.unit before = (built, after)
  | .consult told => Settings.current before = (told, after)
  | .invoke u spec convention arguments answer =>
    Invocation.call spec convention u arguments before = (answer, after)
  | .close connection closed => client.bind Client.connection = some connection ∧
    ∃ between records, connection.close before = (closed, between) ∧
      after = { between with journal := between.journal ++ records }

/-- The unit that a deed has built. -/
def built? : Deed → Option ExecutionUnit
  | .build (.ok u) => some u
  | _ => none

/-- The convention that a deed has found. -/
def told? : Deed → Option AccessorConvention
  | .consult (.ok held) => some held.settings.convention
  | _ => none

/-- Whether a deed closes a connection. -/
def isClose : Deed → Bool
  | .close _ _ => true
  | _ => false

/-- A deed gives a query what it needs to run updates. -/
def Prepares (deed : Deed) : Prop := deed.built?.isSome ∨ deed.told?.isSome

end Deed

/-- Deeds lead one after another from some traces to others. -/
inductive Did (client : Option Client) : List Deed → Activity → Activity → Prop
  | nothing {activity : Activity} : Did client [] activity activity
  | next {deed : Deed} {others : List Deed} {before between after : Activity} :
      deed.Done client before between → Did client others between after →
      Did client (deed :: others) before after

theorem Did.append {client : Option Client} {first others : List Deed}
    {before between after : Activity} (h : Did client first before between)
    (h' : Did client others between after) : Did client (first ++ others) before after := by
  induction h with
  | nothing => exact h'
  | next hdone _ ih => exact .next hdone (ih h')

theorem Did.single {client : Option Client} {deed : Deed} {before after : Activity}
    (h : deed.Done client before after) : Did client [deed] before after := .next h .nothing

/-- A use of a query: the traces that it finds and leaves, and what it answers. -/
structure Turn where
  use : Use
  before : Activity
  answer : Except Failure Value
  after : Activity

/-- The arguments of a call of a method of a query. -/
def fitted (typeName : String) (m : DeclaredMethod) (values : List Value) (named : Named) :
    Except Failure (List Value) :=
  if Signature.isGiven named receiverName then
    .error (.elementary .wrongType
      (m.qualifiedName ++ "() got multiple values for argument 'self'"))
  else m.signature.argumentsOf (.other typeName) values named

theorem call_eq (q : Query) (m : DeclaredMethod) (values : List Value) (named : Named) :
    q.call m values named =
      match fitted q.typeName m values named with
      | .error failure => pure (q, .error failure)
      | .ok arguments => q.run m.spec arguments := by
  unfold call fitted
  split
  · rfl
  · cases m.signature.argumentsOf (.other q.typeName) values named <;> rfl

/-- What is left of the outcome of closing a connection: an ordinary failure is swallowed. -/
def swallowed : Except Failure Unit → Except Failure Unit
  | .ok () => .ok ()
  | .error failure => if failure.isOrdinary then .ok () else .error failure

/-- The deeds of a use of an open query, and what it answers. -/
inductive OpenTurn (typeName : String) (client : Option Client) :
    Use → List Deed → Except Failure Value → Prop
  | misfit {m : DeclaredMethod} {values : List Value} {named : Named} {failure : Failure} :
      fitted typeName m values named = .error failure →
      OpenTurn typeName client (.call m values named) [] (.error failure)
  | unbuilt {m : DeclaredMethod} {values arguments : List Value} {named : Named}
      {failure : Failure} :
      fitted typeName m values named = .ok arguments →
      OpenTurn typeName client (.call m values named) [.build (.error failure)] (.error failure)
  | untold {m : DeclaredMethod} {values arguments : List Value} {named : Named}
      {preparing : List Deed} {failure : Failure} :
      fitted typeName m values named = .ok arguments → (∀ deed ∈ preparing, deed.Prepares) →
      OpenTurn typeName client (.call m values named) (preparing ++ [.consult (.error failure)])
        (.error failure)
  | invoked {m : DeclaredMethod} {values arguments : List Value} {named : Named}
      {preparing : List Deed} {u : ExecutionUnit} {convention : AccessorConvention}
      {answer : Except Failure Value} :
      fitted typeName m values named = .ok arguments → (∀ deed ∈ preparing, deed.Prepares) →
      OpenTurn typeName client (.call m values named)
        (preparing ++ [.invoke u m.spec convention arguments answer]) answer
  | unconnected {use : Use} : use.closes = true → client.bind Client.connection = none →
      OpenTurn typeName client use [] use.closedAnswer
  | closed {use : Use} {connection : Connection} {closed : Except Failure Unit} :
      use.closes = true → client.bind Client.connection = some connection →
      OpenTurn typeName client use [.close connection closed]
        (swallowed closed >>= fun _ => use.closedAnswer)

/-- What a use of a closed query answers. -/
inductive ClosedTurn (typeName : String) : Use → Except Failure Value → Prop
  | misfit {m : DeclaredMethod} {values : List Value} {named : Named} {failure : Failure} :
      fitted typeName m values named = .error failure →
      ClosedTurn typeName (.call m values named) (.error failure)
  | refused {m : DeclaredMethod} {values arguments : List Value} {named : Named} :
      fitted typeName m values named = .ok arguments →
      ClosedTurn typeName (.call m values named) (.error (.configuration (.closed typeName)))
  | again {use : Use} : use.closes = true → ClosedTurn typeName use use.closedAnswer

/-- A turn consists of deeds and leaves a query behind. -/
structure Step (q : Query) (turn : Turn) (deeds : List Deed) (q' : Query) : Prop where
  did : Did q.client deeds turn.before turn.after
  client : q'.client = q.client
  typeName : q'.typeName = q.typeName
  closed : q'.closed = (q.closed || turn.use.closes)
  units : q'.unit?.toList = q.unit?.toList ++ deeds.filterMap Deed.built?
  conventions : q'.convention?.toList = q.convention?.toList ++ deeds.filterMap Deed.told?
  invoked : ∀ u spec convention arguments answer,
    Deed.invoke u spec convention arguments answer ∈ deeds →
      q'.unit? = some u ∧ q'.convention? = some convention
  opened : q.closed = false → OpenTurn q.typeName q.client turn.use deeds turn.answer
  refused : q.closed = true → deeds = [] ∧ ClosedTurn q.typeName turn.use turn.answer

/-- A query has a unit or can build one. -/
def CanWork (q : Query) : Prop := q.unit?.isSome ∨ q.client.isSome

variable {q : Query}

/-! ## Getting ready -/

/-- How an open query comes by its unit. -/
inductive Obtains (q : Query) (before : Activity) :
    List Deed → Query → Except Failure ExecutionUnit → Activity → Prop
  | held {u : ExecutionUnit} : q.unit? = some u → Obtains q before [] q (.ok u) before
  | built {c : Client} {u : ExecutionUnit} {after : Activity} :
      q.unit? = none → q.client = some c → c.unit before = (.ok u, after) →
      Obtains q before [.build (.ok u)] { q with unit? := some u } (.ok u) after
  | failed {c : Client} {failure : Failure} {after : Activity} :
      q.client = some c → c.unit before = (.error failure, after) →
      Obtains q before [.build (.error failure)] q (.error failure) after

theorem exists_obtains (hopen : q.closed = false) (hq : q.CanWork) (before : Activity) :
    ∃ deeds q' outcome after, q.unit before = (.ok (q', outcome), after) ∧
      Obtains q before deeds q' outcome after := by
  unfold Query.unit
  rw [hopen, if_neg Bool.false_ne_true]
  cases hunit : q.unit? with
  | some u => exact ⟨_, _, _, _, rfl, .held hunit⟩
  | none =>
    cases hclient : q.client with
    | none => simp [CanWork, hunit, hclient] at hq
    | some c =>
      dsimp only
      rcases hbuild : c.unit before with ⟨failure | u, after⟩
      · refine ⟨_, q, .error failure, after, ?_, .failed hclient hbuild⟩
        rw [Act.bind_run_ok (Act.attempt_run _ _), hbuild]
        rfl
      · refine ⟨_, { q with unit? := some u }, .ok u, after, ?_, .built hunit hclient hbuild⟩
        rw [Act.bind_run_ok (Act.attempt_run _ _), hbuild, hclient, hopen]
        rfl

/-- How a query learns how accessors are named. -/
inductive Learns (q : Query) (before : Activity) :
    List Deed → Query → Except Failure AccessorConvention → Activity → Prop
  | held {convention : AccessorConvention} : q.convention? = some convention →
      Learns q before [] q (.ok convention) before
  | told {held : HeldSettings} {after : Activity} : q.convention? = none →
      Settings.current before = (.ok held, after) →
      Learns q before [.consult (.ok held)] { q with convention? := some held.settings.convention }
        (.ok held.settings.convention) after
  | failed {failure : Failure} {after : Activity} :
      Settings.current before = (.error failure, after) →
      Learns q before [.consult (.error failure)] q (.error failure) after

theorem exists_learns (q : Query) (before : Activity) :
    ∃ deeds q' outcome after, q.convention before = (.ok (q', outcome), after) ∧
      Learns q before deeds q' outcome after := by
  unfold convention
  cases hconvention : q.convention? with
  | some convention => exact ⟨_, _, _, _, rfl, .held hconvention⟩
  | none =>
    dsimp only
    rcases hcurrent : Settings.current before with ⟨failure | held, after⟩
    · refine ⟨_, q, .error failure, after, ?_, .failed hcurrent⟩
      rw [Act.bind_run_ok (Act.attempt_run _ _), hcurrent]
      rfl
    · refine ⟨_, _, _, after, ?_, .told hconvention hcurrent⟩
      rw [Act.bind_run_ok (Act.attempt_run _ _), hcurrent]
      rfl

section Run

variable {spec : Spec} {arguments : List Value} {q₁ q₂ : Query} {u : ExecutionUnit}
  {convention : AccessorConvention} {failure : Failure} {before between ready after : Activity}
  {answer : Except Failure Value}

theorem run_of_unit_failed (hunit : q.unit before = (.ok (q₁, .error failure), between)) :
    q.run spec arguments before = (.ok (q₁, .error failure), between) := by
  rw [Query.run, Act.bind_run_ok hunit]
  rfl

theorem run_of_convention_failed (hunit : q.unit before = (.ok (q₁, .ok u), between))
    (hconvention : q₁.convention between = (.ok (q₂, .error failure), ready)) :
    q.run spec arguments before = (.ok (q₂, .error failure), ready) := by
  rw [Query.run, Act.bind_run_ok hunit]
  dsimp only
  rw [Act.bind_run_ok hconvention]
  rfl

/-- A query that has its unit and knows how accessors are named answers as the unit runs the
update. -/
theorem run_of_ready (hunit : q.unit before = (.ok (q₁, .ok u), between))
    (hconvention : q₁.convention between = (.ok (q₂, .ok convention), ready))
    (hcall : Invocation.call spec convention u arguments ready = (answer, after)) :
    q.run spec arguments before = (.ok (q₂, answer), after) := by
  rw [Query.run, Act.bind_run_ok hunit]
  dsimp only
  rw [Act.bind_run_ok hconvention]
  dsimp only
  rw [Act.bind_run_ok (Act.attempt_run _ _), hcall]
  rfl

end Run

variable {before after : Activity} {deeds : List Deed} {q' : Query}

/-- What a query has after some deeds it had before them, or it got it by them. -/
structure Gains (q : Query) (deeds : List Deed) (q' : Query) : Prop where
  client : q'.client = q.client
  typeName : q'.typeName = q.typeName
  closed : q'.closed = q.closed
  units : q'.unit?.toList = q.unit?.toList ++ deeds.filterMap Deed.built?
  conventions : q'.convention?.toList = q.convention?.toList ++ deeds.filterMap Deed.told?

theorem Gains.trans {q'' : Query} {others : List Deed} (h : q.Gains deeds q')
    (h' : q'.Gains others q'') : q.Gains (deeds ++ others) q'' where
  client := h'.client.trans h.client
  typeName := h'.typeName.trans h.typeName
  closed := h'.closed.trans h.closed
  units := by rw [h'.units, h.units, List.filterMap_append, List.append_assoc]
  conventions := by rw [h'.conventions, h.conventions, List.filterMap_append, List.append_assoc]

theorem gains_of_nothing {deeds : List Deed} (hunits : deeds.filterMap Deed.built? = [])
    (hconventions : deeds.filterMap Deed.told? = []) (q : Query) : q.Gains deeds q where
  client := rfl
  typeName := rfl
  closed := rfl
  units := by rw [hunits, List.append_nil]
  conventions := by rw [hconventions, List.append_nil]

theorem Obtains.did {outcome : Except Failure ExecutionUnit}
    (h : Obtains q before deeds q' outcome after) : Did q.client deeds before after := by
  cases h with
  | held _ => exact .nothing
  | built _ hclient hbuild => exact .single ⟨_, hclient, hbuild⟩
  | failed hclient hbuild => exact .single ⟨_, hclient, hbuild⟩

theorem Obtains.gains {outcome : Except Failure ExecutionUnit}
    (h : Obtains q before deeds q' outcome after) : q.Gains deeds q' := by
  cases h with
  | held _ => exact gains_of_nothing rfl rfl q
  | built hunit _ _ =>
    exact ⟨rfl, rfl, rfl, by rw [hunit]; rfl, (List.append_nil _).symm⟩
  | failed _ _ => exact gains_of_nothing rfl rfl q

theorem Learns.did {outcome : Except Failure AccessorConvention} {client : Option Client}
    (h : Learns q before deeds q' outcome after) : Did client deeds before after := by
  cases h with
  | held _ => exact .nothing
  | told _ hcurrent => exact .single hcurrent
  | failed hcurrent => exact .single hcurrent

theorem Learns.gains {outcome : Except Failure AccessorConvention}
    (h : Learns q before deeds q' outcome after) : q.Gains deeds q' := by
  cases h with
  | held _ => exact gains_of_nothing rfl rfl q
  | told hconvention _ =>
    exact ⟨rfl, rfl, rfl, (List.append_nil _).symm, by rw [hconvention]; rfl⟩
  | failed _ => exact gains_of_nothing rfl rfl q

theorem Obtains.of_ok {u : ExecutionUnit} (h : Obtains q before deeds q' (.ok u) after) :
    q'.unit? = some u ∧ ∀ deed ∈ deeds, deed.Prepares := by
  cases h with
  | held hunit => exact ⟨hunit, fun _ hmem => nomatch hmem⟩
  | built _ _ _ => exact ⟨rfl, fun deed hmem => by cases List.mem_singleton.1 hmem; exact .inl rfl⟩

theorem Learns.of_ok {convention : AccessorConvention}
    (h : Learns q before deeds q' (.ok convention) after) :
    q'.unit? = q.unit? ∧ q'.convention? = some convention ∧ ∀ deed ∈ deeds, deed.Prepares := by
  cases h with
  | held hconvention => exact ⟨rfl, hconvention, fun _ hmem => nomatch hmem⟩
  | told _ _ =>
    exact ⟨rfl, rfl, fun deed hmem => by cases List.mem_singleton.1 hmem; exact .inr rfl⟩

/-! ## One turn -/

/-- A use that does nothing, and closes the query only if that is closed already. -/
theorem step_of_idle {use : Use} {answer : Except Failure Value}
    (hclosed : q.closed = (q.closed || use.closes))
    (hopened : q.closed = false → OpenTurn q.typeName q.client use [] answer)
    (hrefused : q.closed = true → ClosedTurn q.typeName use answer) (before : Activity) :
    q.Step ⟨use, before, answer, before⟩ [] q where
  did := .nothing
  client := rfl
  typeName := rfl
  closed := hclosed
  units := (List.append_nil _).symm
  conventions := (List.append_nil _).symm
  invoked _ _ _ _ _ hmem := nomatch hmem
  opened := hopened
  refused h := ⟨rfl, hrefused h⟩

/-- A call that does not fit does nothing. -/
theorem exists_step_of_misfit {m : DeclaredMethod} {values : List Value} {named : Named}
    {failure : Failure} (hfitted : fitted q.typeName m values named = .error failure)
    (before : Activity) :
    q.call m values named before = (.ok (q, .error failure), before) ∧
      q.Step ⟨.call m values named, before, .error failure, before⟩ [] q := by
  constructor
  · rw [call_eq, hfitted]
    rfl
  · exact step_of_idle (Bool.or_false _).symm (fun _ => .misfit hfitted)
      (fun _ => .misfit hfitted) before

/-- A closed query refuses a call that fits. -/
theorem exists_step_of_closed {m : DeclaredMethod} {values arguments : List Value} {named : Named}
    (hclosed : q.closed = true) (hfitted : fitted q.typeName m values named = .ok arguments)
    (before : Activity) :
    q.call m values named before =
        (.ok (q, .error (.configuration (.closed q.typeName))), before) ∧
      q.Step ⟨.call m values named, before, .error (.configuration (.closed q.typeName)), before⟩
        [] q := by
  have hunit : q.unit before =
      (.ok (q, .error (.configuration (.closed q.typeName))), before) := by
    rw [Query.unit, if_pos hclosed]
    rfl
  constructor
  · rw [call_eq, hfitted]
    exact run_of_unit_failed hunit
  · refine step_of_idle (Bool.or_false _).symm (fun hopen => ?_) (fun _ => .refused hfitted) before
    rw [hopen] at hclosed
    cases hclosed

/-- A turn of calling an open query, from what it gains. -/
theorem step_of_gains {m : DeclaredMethod} {values : List Value} {named : Named}
    {answer : Except Failure Value} (hopen : q.closed = false)
    (hdid : Did q.client deeds before after) (hgains : q.Gains deeds q')
    (hinvoked : ∀ u spec convention arguments answer,
      Deed.invoke u spec convention arguments answer ∈ deeds →
        q'.unit? = some u ∧ q'.convention? = some convention)
    (hturn : OpenTurn q.typeName q.client (.call m values named) deeds answer) :
    q.Step ⟨.call m values named, before, answer, after⟩ deeds q' where
  did := hdid
  client := hgains.client
  typeName := hgains.typeName
  closed := hgains.closed.trans (Bool.or_false _).symm
  units := hgains.units
  conventions := hgains.conventions
  invoked := hinvoked
  opened _ := hturn
  refused hclosed := by rw [hopen] at hclosed; cases hclosed

theorem not_mem_of_prepares {u : ExecutionUnit} {spec : Spec} {convention : AccessorConvention}
    {arguments : List Value} {answer : Except Failure Value}
    (h : ∀ deed ∈ deeds, deed.Prepares) :
    Deed.invoke u spec convention arguments answer ∉ deeds := by
  intro hmem
  rcases h _ hmem with hprepares | hprepares <;> cases hprepares

/-- A query that has obtained its unit learns how accessors are named and runs a call that fits. -/
theorem exists_step_of_obtained {m : DeclaredMethod} {values arguments : List Value}
    {named : Named} {building : List Deed} {q₁ : Query} {u : ExecutionUnit} {between : Activity}
    (hopen : q.closed = false) (hfitted : fitted q.typeName m values named = .ok arguments)
    (hunit : q.unit before = (.ok (q₁, .ok u), between))
    (hobtains : Obtains q before building q₁ (.ok u) between) :
    ∃ deeds q' answer after, q.run m.spec arguments before = (.ok (q', answer), after) ∧
      q.Step ⟨.call m values named, before, answer, after⟩ deeds q' := by
  obtain ⟨hheld, hbuilding⟩ := hobtains.of_ok
  obtain ⟨telling, q₂, told, reached, hconvention, hlearns⟩ := exists_learns q₁ between
  have hdid : Did q.client (building ++ telling) before reached :=
    hobtains.did.append hlearns.did
  have hgains := hobtains.gains.trans hlearns.gains
  cases told with
  | error failure =>
    refine ⟨building ++ telling, q₂, .error failure, reached,
      run_of_convention_failed hunit hconvention, ?_⟩
    cases hlearns with
    | failed _ =>
      refine step_of_gains hopen hdid hgains ?_ (.untold hfitted hbuilding)
      intro u spec convention arguments answer hmem
      rcases List.mem_append.1 hmem with hmem | hmem
      · exact absurd hmem (not_mem_of_prepares hbuilding)
      · simp at hmem
  | ok convention =>
    obtain ⟨hkept, hknown, htelling⟩ := hlearns.of_ok
    have hpreparing : ∀ deed ∈ building ++ telling, deed.Prepares :=
      List.forall_mem_append.2 ⟨hbuilding, htelling⟩
    rcases hinvoke : Invocation.call m.spec convention u arguments reached with ⟨answer, after⟩
    refine ⟨building ++ telling ++ [.invoke u m.spec convention arguments answer], q₂, answer,
      after, run_of_ready hunit hconvention hinvoke, ?_⟩
    refine step_of_gains hopen (hdid.append (.single hinvoke))
      (hgains.trans (gains_of_nothing rfl rfl q₂)) ?_ (.invoked hfitted hpreparing)
    intro u' spec convention' arguments' answer' hmem
    rcases List.mem_append.1 hmem with hmem | hmem
    · exact absurd hmem (not_mem_of_prepares hpreparing)
    · cases List.mem_singleton.1 hmem
      exact ⟨hkept.trans hheld, hknown⟩

/-- An open query gets ready and runs a call that fits. -/
theorem exists_step_of_open {m : DeclaredMethod} {values arguments : List Value} {named : Named}
    (hopen : q.closed = false) (hq : q.CanWork)
    (hfitted : fitted q.typeName m values named = .ok arguments) (before : Activity) :
    ∃ deeds q' answer after, q.call m values named before = (.ok (q', answer), after) ∧
      q.Step ⟨.call m values named, before, answer, after⟩ deeds q' := by
  have hcall : q.call m values named = q.run m.spec arguments := by rw [call_eq, hfitted]
  rw [hcall]
  obtain ⟨building, q₁, obtained, between, hunit, hobtains⟩ := exists_obtains hopen hq before
  cases obtained with
  | ok u => exact exists_step_of_obtained hopen hfitted hunit hobtains
  | error failure =>
    refine ⟨building, q₁, .error failure, between, run_of_unit_failed hunit, ?_⟩
    have hdid := hobtains.did
    have hgains := hobtains.gains
    cases hobtains with
    | failed _ _ =>
      exact step_of_gains hopen hdid hgains (by simp) (.unbuilt hfitted)

/-- Closing the connection of a client is noted, and an ordinary failure is swallowed. -/
theorem closeConnection_run (c : Client) (connection : Connection) (before : Activity) :
    ∃ records, closeConnection c connection before =
      (swallowed (connection.close before).1,
        { (connection.close before).2 with
          journal := (connection.close before).2.journal ++ records }) := by
  unfold closeConnection swallowed
  rw [Act.bind_run_ok (Act.attempt_run _ _)]
  rcases connection.close before with ⟨failure | ⟨⟩, between⟩
  · dsimp only
    split
    · exact ⟨_, rfl⟩
    · refine ⟨[], ?_⟩
      rw [List.append_nil]
      rfl
  · exact ⟨_, rfl⟩

/-- How an open query closes the connection of its client, if it has one. -/
inductive Closes (client : Option Client) : List Deed → Except Failure Unit → Prop
  | unconnected : client.bind Client.connection = none → Closes client [] (.ok ())
  | closed {connection : Connection} {closed : Except Failure Unit} :
      client.bind Client.connection = some connection →
      Closes client [.close connection closed] (swallowed closed)

theorem exists_closes (hopen : q.closed = false) (before : Activity) :
    ∃ deeds outcome after, q.close before = (.ok ({ q with closed := true }, outcome), after) ∧
      Did q.client deeds before after ∧ Closes q.client deeds outcome := by
  unfold close
  rw [if_neg (by rw [hopen]; exact Bool.false_ne_true)]
  cases hclient : q.client with
  | none => exact ⟨[], .ok (), before, rfl, .nothing, .unconnected rfl⟩
  | some c =>
    dsimp only
    cases hconnection : c.connection with
    | none => exact ⟨[], .ok (), before, rfl, .nothing, .unconnected hconnection⟩
    | some connection =>
      obtain ⟨records, hclose⟩ := closeConnection_run c connection before
      refine ⟨[.close connection (connection.close before).1], _, _, ?_,
        .single ⟨hconnection, _, records, rfl, rfl⟩, .closed hconnection⟩
      dsimp only
      rw [Act.bind_run_ok (Act.attempt_run _ _), hclose]
      rfl

/-- A use that closes the query answers after that, unless closing was interrupted. -/
theorem run_of_closes {use : Use} (huse : use.closes = true) {outcome : Except Failure Unit}
    (hclose : q.close before = (.ok (q', outcome), after)) :
    use.run q before = (.ok (q', outcome >>= fun _ => use.closedAnswer), after) := by
  cases use with
  | call m values named => cases huse
  | close =>
    rw [Use.run, Act.bind_run_ok hclose]
    cases outcome <;> rfl
  | leave answer =>
    have hdone : (pure (q, answer) : Act (After Value)) before = (.ok (q, answer), before) := rfl
    rw [Use.run, during, Act.bind_run_ok hdone]
    dsimp only
    rw [Act.bind_run_ok hclose]
    cases outcome <;> rfl

/-- A closed query is closed again without doing anything. -/
theorem exists_step_of_again {use : Use} (huse : use.closes = true) (hclosed : q.closed = true)
    (before : Activity) :
    use.run q before = (.ok (q, use.closedAnswer), before) ∧
      q.Step ⟨use, before, use.closedAnswer, before⟩ [] q := by
  have hclose : q.close before = (.ok (q, .ok ()), before) := by
    rw [close, if_pos hclosed]
    rfl
  refine ⟨run_of_closes huse hclose,
    step_of_idle ?_ (fun hopen => ?_) (fun _ => .again huse) before⟩
  · rw [hclosed, Bool.true_or]
  · rw [hopen] at hclosed
    cases hclosed

/-- An open query closes the connection of its client, if it has one. -/
theorem exists_step_of_closing {use : Use} (huse : use.closes = true) (hopen : q.closed = false)
    (before : Activity) :
    ∃ deeds q' answer after, use.run q before = (.ok (q', answer), after) ∧
      q.Step ⟨use, before, answer, after⟩ deeds q' := by
  obtain ⟨deeds, outcome, after, hclose, hdid, hcloses⟩ := exists_closes hopen before
  have hgains : q.Gains deeds q := by
    cases hcloses <;> exact gains_of_nothing rfl rfl q
  refine ⟨deeds, _, _, after, run_of_closes huse hclose,
    { did := hdid
      client := rfl
      typeName := rfl
      closed := by rw [huse, Bool.or_true]
      units := hgains.units
      conventions := hgains.conventions
      invoked := fun _ _ _ _ _ hmem => ?_
      opened := fun _ => ?_
      refused := fun hclosed => by rw [hopen] at hclosed; cases hclosed }⟩
  · cases hcloses with
    | unconnected _ => cases hmem
    | closed _ => simp at hmem
  · cases hcloses with
    | unconnected hconnection => exact .unconnected huse hconnection
    | closed hconnection => exact .closed huse hconnection

/-- Every use of a query that can work is a turn. -/
theorem exists_step (hq : q.CanWork) (use : Use) (before : Activity) :
    ∃ deeds q' answer after, use.run q before = (.ok (q', answer), after) ∧
      q.Step ⟨use, before, answer, after⟩ deeds q' := by
  cases huse : use.closes with
  | true =>
    cases hclosed : q.closed with
    | true => exact ⟨_, _, _, _, exists_step_of_again huse hclosed before⟩
    | false => exact exists_step_of_closing huse hclosed before
  | false =>
    cases use with
    | close => cases huse
    | leave outcome => cases huse
    | call m values named =>
      cases hfitted : fitted q.typeName m values named with
      | error failure => exact ⟨_, _, _, _, exists_step_of_misfit hfitted before⟩
      | ok arguments =>
        cases hclosed : q.closed with
        | true => exact ⟨_, _, _, _, exists_step_of_closed hclosed hfitted before⟩
        | false => exact exists_step_of_open hclosed hq hfitted before

end Query
end BoundUpdate
