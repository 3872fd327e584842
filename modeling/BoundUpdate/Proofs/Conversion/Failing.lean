import BoundUpdate.Conversion.Standard
import BoundUpdate.Proofs.Lookup.Reading

namespace BoundUpdate

/-!
# Why the standard conversion fails

A value has no JSON text because some part of it is of a wrong type, contains
itself, has too many digits or lies too deep in it.  An object that tells its
class itself may fail while it does, or while it is asked for what a value of
that class has.  All these failures arise outside the library.
-/

open Lookup

namespace Json

section Failing

variable {α β : Type}

/-- What is told about a value that has no JSON text, besides its unwritable parts, is a failure
from outside. -/
def FailsOnValue (x : Except WriteError α) : Prop :=
  ∀ failure, x = .error (.failed failure) → IsOutside failure

theorem failsOnValue_ok (a : α) : FailsOnValue (.ok a : Except WriteError α) := nofun

theorem failsOnValue_unwritable (part : Value) :
    FailsOnValue (.error (.unwritable part) : Except WriteError α) := nofun

theorem failsOnValue_elementary (kind : FailureKind) (text : String) :
    FailsOnValue (.error (.failed (.elementary kind text)) : Except WriteError α) := by
  intro _ hsame
  cases hsame
  exact isOutside_elementary kind text

theorem FailsOnValue.bind {x : Except WriteError α} {f : α → Except WriteError β}
    (hx : FailsOnValue x) (hf : ∀ a, FailsOnValue (f a)) : FailsOnValue (x >>= f) := by
  cases x with
  | error failure =>
    intro _ hsame
    cases hsame
    exact hx _ rfl
  | ok a => exact hf a

theorem FailsOnValue.bind_ok {x : Except WriteError α} (hx : FailsOnValue x) (g : α → β) :
    FailsOnValue (x >>= fun a => .ok (g a)) := hx.bind fun a => failsOnValue_ok (g a)

theorem failsOnValue_enter (nesting : Nat) :
    FailsOnValue (Nesting.enter tooDeeplyWritten nesting) := by
  cases nesting with
  | zero => exact failsOnValue_elementary _ _
  | succ nesting => exact failsOnValue_ok nesting

end Failing

theorem failsOnValue_integer (n : Int) : FailsOnValue (integer n) := by
  unfold integer
  split
  · exact failsOnValue_ok _
  · exact failsOnValue_elementary _ _

theorem failsOnValue_key (v : Value) : FailsOnValue (key v) := by
  unfold key
  split
  case h_4 n => exact failsOnValue_integer n
  case h_6 =>
    split
    · exact failsOnValue_ok _
    · exact failsOnValue_integer _
    · exact failsOnValue_elementary _ _
  all_goals exact failsOnValue_ok _

theorem failsOnValue_write (nesting : Nat) (v : Value) : FailsOnValue (write nesting v) := by
  refine (write.mutual_induct_unfolding (fun _ _ => FailsOnValue) (fun _ _ => FailsOnValue)
    (fun _ _ => FailsOnValue) ?none ?bool ?int ?float ?text ?list ?tuple ?record ?dict ?selfDict
    ?enumText ?enumInt ?enumOther ?other ?noItems ?lastItem ?item ?noEntries ?lastEntry ?entry).1
    nesting v
  case none => exact fun _ => failsOnValue_ok _
  case bool => exact fun _ _ => failsOnValue_ok _
  case int => exact fun _ => failsOnValue_integer
  case float => exact fun _ _ => failsOnValue_ok _
  case text => exact fun _ _ => failsOnValue_ok _
  case list => exact fun _ _ hitems => (failsOnValue_enter _).bind fun n => (hitems n).bind_ok _
  case tuple => exact fun _ _ hitems => (failsOnValue_enter _).bind fun n => (hitems n).bind_ok _
  case record =>
    exact fun _ _ _ hitems => (failsOnValue_enter _).bind fun n => (hitems n).bind_ok _
  case dict =>
    exact fun _ _ hentries => (failsOnValue_enter _).bind fun n => (hentries n).bind_ok _
  case selfDict =>
    exact fun _ => (failsOnValue_enter _).bind fun _ => (failsOnValue_enter _).bind fun _ =>
      failsOnValue_elementary _ _
  case enumText => exact fun _ _ _ _ => failsOnValue_ok _
  case enumInt => exact fun _ _ n _ _ => failsOnValue_integer n
  case enumOther => exact fun _ _ _ _ => failsOnValue_unwritable _
  case other => exact fun _ v _ _ _ _ _ _ _ _ _ _ _ => failsOnValue_unwritable v
  case noItems => exact fun _ => failsOnValue_ok _
  case lastItem => exact fun _ _ hv => hv
  case item => exact fun _ _ _ _ hv hrest => hv.bind fun _ => hrest.bind_ok _
  case noEntries => exact fun _ => failsOnValue_ok _
  case lastEntry => exact fun _ k _ hv => (failsOnValue_key k).bind fun _ => hv.bind_ok _
  case entry =>
    exact fun _ k _ _ _ hv hrest =>
      (failsOnValue_key k).bind fun _ => hv.bind fun _ => hrest.bind_ok _

theorem isOutside_of_text {nesting : Nat} {v : Value} {failure : Failure}
    (h : text v nesting = .error (.failed failure)) : IsOutside failure := by
  rw [text] at h
  rcases hwrite : write nesting v with fault | written
  · rw [hwrite] at h
    obtain rfl := Except.error.inj h
    exact failsOnValue_write nesting v failure hwrite
  · rw [hwrite] at h
    cases h

end Json

/-! ## Values that are shown -/

namespace Value

theorem isOutside_of_told {special : String} {outcome : Except Failure Value} {failure : Failure}
    (houtcome : ∀ raised, outcome = .error raised → IsOutside raised)
    (h : outcome.bind (told special) = .error failure) : IsOutside failure := by
  cases outcome with
  | error raised =>
    obtain rfl := Except.error.inj h
    exact houtcome raised rfl
  | ok answer =>
    simp only [Except.bind, told] at h
    split at h
    · cases h
    · cases h
      exact isOutside_elementary _ _

/-- If there is a failure, it arose outside the library. -/
def FaultOutside (fault : Option Failure) : Prop :=
  ∀ failure, fault = some failure → IsOutside failure

theorem FaultOutside.orElse {first second : Option Failure} (hfirst : FaultOutside first)
    (hsecond : FaultOutside second) : FaultOutside (first <|> second) := by
  cases first with
  | some failure => exact hfirst
  | none => exact hsecond

theorem faultOutside_showFault (v : Value) : FaultOutside v.showFault? := by
  refine (showFault?.mutual_induct_unfolding (fun _ => FaultOutside) (fun _ => FaultOutside)
    (fun _ => FaultOutside) ?list ?tuple ?record ?set ?dict ?enumMember ?shown ?refused ?plain
    ?other ?noItems ?item ?noEntries ?entry).1 v
  case list => exact fun _ hitems => hitems
  case tuple => exact fun _ hitems => hitems
  case record => exact fun _ _ hitems => hitems
  case set => exact fun _ hitems => hitems
  case dict => exact fun _ hentries => hentries
  case enumMember => exact fun _ hvalue => hvalue
  case shown => exact fun _ _ _ _ _ _ => nofun
  case refused =>
    intro b fields outcome hask failure htold raised hraised
    obtain rfl := Option.some.inj hraised
    exact isOutside_of_told (fun raised houtcome => isOutside_of_askWith (houtcome ▸ hask)) htold
  case plain => exact fun _ _ _ => nofun
  case other => exact fun _ _ _ _ _ _ _ _ => nofun
  case noItems => exact nofun
  case item => exact fun _ _ hv hrest => hv.orElse hrest
  case noEntries => exact nofun
  case entry => exact fun _ _ _ hk hv hrest => hk.orElse (hv.orElse hrest)

theorem isOutside_of_plain {v : Value} {failure : Failure} (h : v.plain? = .error failure) :
    IsOutside failure := by
  unfold plain? at h
  split at h
  case h_1 hask =>
    exact isOutside_of_told (fun raised houtcome => isOutside_of_askWith (houtcome ▸ hask)) h
  case h_2 => cases h
  case h_3 =>
    split at h
    case h_1 hfault =>
      obtain rfl := Except.error.inj h
      exact faultOutside_showFault _ _ hfault
    case h_2 => cases h

end Value

/-! ## The standard conversion -/

namespace Conversion

theorem failsOutside_toldName (v : Value) : FailsOutside (toldName v) := by
  unfold toldName
  split
  · refine (failsOutside_readAttribute _ _).bind fun told => ?_
    dsimp only
    split
    · exact failsOutside_pure _
    · exact (failsOutside_readAttribute _ _).bind fun name =>
        failsOutside_ofExcept fun _ => Value.isOutside_of_plain
  · exact failsOutside_pure _

theorem failsOutside_jsonText (nesting : Nat) (v : Value) : FailsOutside (jsonText nesting v) := by
  unfold jsonText
  split
  · exact failsOutside_pure _
  next hfailed => exact failsOutside_throw (Json.isOutside_of_text hfailed)
  · exact (failsOutside_toldName _).bind fun name => failsOutside_raised _ _

theorem failsOutside_countsAsDict (v : Value) : FailsOutside (countsAsDict v) := by
  unfold countsAsDict
  split
  · exact failsOutside_pure _
  · exact failsOutside_tells v _

theorem failsOutside_firstOf (v : Value) : FailsOutside (firstOf v) := by
  unfold firstOf
  split
  · exact failsOutside_pure _
  · exact failsOutside_itemOf v _

theorem failsOutside_holdsDicts (v : Value) : FailsOutside (holdsDicts v) := by
  have hcounts : FailsOutside (countsAsSequence v) := by
    unfold countsAsSequence
    split
    · exact failsOutside_pure _
    · exact failsOutside_tellsSequence v
  refine hcounts.bind fun isSequence => ?_
  split
  · refine (failsOutside_ofExcept fun _ => isOutside_of_truth).bind fun isTrue => ?_
    split
    · exact (failsOutside_firstOf v).bind failsOutside_countsAsDict
    · exact failsOutside_pure _
  · exact failsOutside_pure _

theorem failsOutside_itemsOf (v : Value) : FailsOutside (itemsOf v) := by
  unfold itemsOf
  split
  · exact failsOutside_pure _
  · exact failsOutside_ofExcept fun _ => isOutside_of_toItems

/-- Whatever the standard conversion fails with arose outside the library. -/
theorem failsOutside_standard (v : Value) (nesting : Nat) : FailsOutside (standard v nesting) := by
  unfold standard
  split
  · exact failsOutside_pure _
  · refine (failsOutside_tells v _).bind fun isMember => ?_
    split
    · exact (failsOutside_readAttribute v _).map _
    · refine (failsOutside_countsAsDict v).bind fun isDict => ?_
      split
      · exact failsOutside_jsonText nesting v
      · refine (failsOutside_holdsDicts v).bind fun isList => ?_
        split
        · exact (failsOutside_itemsOf v).bind fun items => failsOutside_jsonText nesting _
        · exact failsOutside_pure _

end Conversion
end BoundUpdate
