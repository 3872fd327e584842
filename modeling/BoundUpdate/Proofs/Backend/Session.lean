import BoundUpdate.Backend.Recording
import BoundUpdate.Proofs.Activity.Running

namespace BoundUpdate

/-!
# Sessions with a unit

A session is what one user does with a unit: it prepares a statement, binds
values to it and executes it, in this order, and it ends with the first
operation that raises.  A watched unit makes exactly these operations
observable, so the events of a session are its operations.
-/

/-- An operation on a unit with its operands. -/
inductive Operation where
  | prepare (t : Template) (keys : KeyRequest) (columns : List Value)
  | bind (position v : Value)
  /-- Execute a statement that has some parameters. -/
  | executeSingle (parameters : List Value)
  | executeBatch (sets : List (List Value))

/-- The event that makes an operation observable. -/
def Operation.event : Operation → Event
  | .prepare t keys columns => .prepare t.source keys columns
  | .bind position v => .bind position v
  | .executeSingle parameters => .executeSingle parameters
  | .executeBatch sets => .executeBatch sets

/-- An activity of which nothing can be observed. -/
def Act.unseen {α : Type} (x : Act α) : Act α := fun activity =>
  ((x activity).1, { (x activity).2 with events := activity.events })

namespace ExecutionUnit

/-- A unit that makes nothing observable but what it is asked for. -/
def watched (u : ExecutionUnit) : ExecutionUnit :=
  observed
    { prepare := fun t keys columns => (u.prepare t keys columns).unseen
      bind := fun s position v => (u.bind s position v).unseen
      executeSingle := fun s => (u.executeSingle s).unseen
      executeBatch := fun s sets => (u.executeBatch s sets).unseen }

/-- A unit prepares fresh statements and binds as statements do, if it does not raise. -/
structure IsPlain (u : ExecutionUnit) : Prop where
  prepare : ∀ {t : Template} {keys : KeyRequest} {columns : List Value} {activity : Activity}
    {s : Statement}, (u.prepare t keys columns activity).1 = .ok s →
      s.template = t ∧ s.parameters = []
  bind : ∀ {s t : Statement} {position v : Value} {activity : Activity},
    (u.bind s position v activity).1 = .ok t → s.bindAt position v = .ok t

theorem IsPlain.watched {u : ExecutionUnit} (h : u.IsPlain) : u.watched.IsPlain where
  prepare := fun hprepare => h.prepare hprepare
  bind := fun hbind => h.bind hbind

/-- The unit behind a recording unit is a plain one, also when it is set up to fail. -/
theorem isPlain_silent (r : Recording) : r.silent.IsPlain where
  prepare := by
    intro t keys columns activity s h
    have hprepared : (Recording.orFail r.prepareFailure
        { template := t, sql := t.render .qmark, keys, keyColumns := columns } activity).1 =
      .ok s := h
    cases hfailure : r.prepareFailure with
    | none =>
      rw [hfailure] at hprepared
      cases hprepared
      exact ⟨rfl, rfl⟩
    | some failure =>
      rw [hfailure] at hprepared
      cases hprepared
  bind := fun h => h

/-- What is done with a unit, from a statement on if there is one already: the operations, how the
last of them ended, and the traces afterwards. -/
inductive Session (u : ExecutionUnit) :
    Option Statement → Activity → List Operation → Except Failure UnitResult → Activity → Prop
  | prepared {t keys columns activity s between operations outcome after} :
      u.prepare t keys columns activity = (.ok s, between) →
      Session u (some s) between operations outcome after →
      Session u none activity (.prepare t keys columns :: operations) outcome after
  | prepareRaised {t keys columns activity failure after} :
      u.prepare t keys columns activity = (.error failure, after) →
      Session u none activity [.prepare t keys columns] (.error failure) after
  | bound {s position v activity t between operations outcome after} :
      u.bind s position v activity = (.ok t, between) →
      Session u (some t) between operations outcome after →
      Session u (some s) activity (.bind position v :: operations) outcome after
  | bindRaised {s position v activity failure after} :
      u.bind s position v activity = (.error failure, after) →
      Session u (some s) activity [.bind position v] (.error failure) after
  | executed {s activity outcome after} :
      u.executeSingle s activity = (outcome, after) →
      Session u (some s) activity [.executeSingle s.parameters] outcome after
  | batchExecuted {s activity sets outcome after} :
      u.executeBatch s (.list (sets.map .list)) activity = (outcome, after) →
      Session u (some s) activity [.executeBatch sets] outcome after

theorem mapM_toItems_list (sets : List (List Value)) :
    (sets.map Value.list).mapM Value.toItems = .ok sets := by
  induction sets with
  | nil => rfl
  | cons values sets ih =>
    rw [List.map_cons, List.mapM_cons, ih]
    rfl

theorem parameterLists_list (sets : List (List Value)) :
    parameterLists (.list (sets.map .list)) = .ok sets := mapM_toItems_list sets

/-! ## The events of a watched unit -/

section Events

variable {u : ExecutionUnit} {s : Statement} {activity after : Activity}

theorem watched_prepare_events {t : Template} {keys : KeyRequest} {columns : List Value}
    {outcome : Except Failure Statement}
    (h : u.watched.prepare t keys columns activity = (outcome, after)) :
    after.events = activity.events ++ [(Operation.prepare t keys columns).event] :=
  congrArg (fun ran => ran.2.events) h.symm

theorem watched_bind_events {position v : Value} {outcome : Except Failure Statement}
    (h : u.watched.bind s position v activity = (outcome, after)) :
    after.events = activity.events ++ [(Operation.bind position v).event] :=
  congrArg (fun ran => ran.2.events) h.symm

theorem watched_executeSingle_events {outcome : Except Failure UnitResult}
    (h : u.watched.executeSingle s activity = (outcome, after)) :
    after.events = activity.events ++ [(Operation.executeSingle s.parameters).event] :=
  congrArg (fun ran => ran.2.events) h.symm

theorem watched_executeBatch_events {sets : List (List Value)}
    {outcome : Except Failure UnitResult}
    (h : u.watched.executeBatch s (.list (sets.map .list)) activity = (outcome, after)) :
    after.events = activity.events ++ [(Operation.executeBatch sets).event] := by
  have hlists := parameterLists_list sets
  change (Act.ofExcept (parameterLists (.list (sets.map .list))) >>= fun lists =>
    Act.observe (.executeBatch lists) >>= fun _ =>
      (u.executeBatch s (.list (sets.map .list))).unseen) activity = (outcome, after) at h
  rw [hlists] at h
  exact congrArg (fun ran => ran.2.events) h.symm

/-- The events of a session with a watched unit are its operations, in order. -/
theorem Session.events {s : Option Statement} {operations : List Operation}
    {outcome : Except Failure UnitResult}
    (h : u.watched.Session s activity operations outcome after) :
    after.events = activity.events ++ operations.map Operation.event := by
  -- every constructor adds the event of its first operation to those of the rest
  induction h with
  | prepared hprepare _ ih =>
    rw [ih, watched_prepare_events hprepare, List.append_assoc]
    rfl
  | prepareRaised hprepare => exact watched_prepare_events hprepare
  | bound hbind _ ih =>
    rw [ih, watched_bind_events hbind, List.append_assoc]
    rfl
  | bindRaised hbind => exact watched_bind_events hbind
  | executed hexecute => exact watched_executeSingle_events hexecute
  | batchExecuted hexecute => exact watched_executeBatch_events hexecute

end Events

end ExecutionUnit
end BoundUpdate
