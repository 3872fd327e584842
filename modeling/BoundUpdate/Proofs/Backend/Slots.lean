import BoundUpdate.Backend.Unit
import Mathlib.Data.List.Induction
import Mathlib.Data.List.Nodup
import Mathlib.Data.List.Perm.Basic
import Mathlib.Data.List.Range
import Mathlib.Tactic.Common

namespace BoundUpdate

/-!
# The slots of a statement

The slots of a statement are an array of fixed size: a statement that has no
parameters yet stands for one with nothing in every slot.  A call that binds at
a slot changes this slot and no other, and any other call is refused and changes
none, so that after any calls every slot holds what was bound to it last.
Binding at the first free slot, over and over, fills the array from the left.
-/

namespace Value

/-! ## Integers as positions -/

theorem askWith?_of_int? {v : Value} {k : Int} (h : v.int? = some k) (special : String)
    (operands : Nat) : v.askWith? special operands = Option.none := by
  cases v <;> first | rfl | cases h

theorem nearbyQuotient?_of_int? {v : Value} {k : Int} (h : v.int? = some k) :
    v.nearbyQuotient? = some (k, 1) := by
  cases v with
  | float x => cases h
  | decimal d => cases h
  | _ => simp [nearbyQuotient?, quotient?, h]

theorem relates_of_int? {v : Value} {k : Int} (h : v.int? = some k) (special : String)
    (holds : Ordering → Bool) (n : Int) :
    v.relates special holds n = .ok (holds (compare k n)) := by
  simp [relates, askWith?_of_int? h, orderTo, nearbyQuotient?_of_int? h, Except.map]

theorem isOutside_of_int? {v : Value} {k : Int} (h : v.int? = some k) (count : Nat) :
    v.isOutside count = .ok (decide (k < 1 ∨ (count : Int) < k)) := by
  by_cases hk : k < 1 <;>
    simp [isOutside, isBelow, isAbove, relates_of_int? h, isLT_compare, isGT_compare, hk,
      bind, Except.bind, pure, Except.pure]

theorem minus_of_int? {v : Value} {k : Int} (h : v.int? = some k) (n : Int) :
    v.minus n = .ok (.int (k - n)) := by
  simp only [minus, movedBy, h, Int.sub_eq_add_neg]

/-- A value that is no integer is not moved to one, unless it is an object that does so itself. -/
theorem int?_eq_none_of_minus {v place : Value} {n : Int} (h : v.int? = Option.none)
    (hsub : v.askWith? "__sub__" 1 = Option.none) (hminus : v.minus n = .ok place) :
    place.int? = Option.none := by
  unfold minus movedBy at hminus
  rw [hsub] at hminus
  split at hminus
  · next hm =>
    rw [h] at hm
    cases hm
  · cases hminus
    rfl
  · unfold decimalResult at hminus
    split at hminus
    · cases hminus
    · split at hminus
      · cases hminus
        rfl
      · cases hminus
  · cases hminus

end Value

namespace Statement

variable {s : Statement}

/-! ## One call -/

/-- A call that binds a value at a position. -/
structure Call where
  position : Value
  value : Value

/-- Whether a call is at a position, counted from one. -/
def Call.isAt (call : Call) (k : Nat) : Bool := call.position.int? == some (k : Int)

/-- The statement that a call leaves, whether the call is refused or not. -/
def afterCall (s : Statement) (call : Call) : Statement :=
  match s.bindAt call.position call.value with
  | .ok t => t
  | .error _ => s.afterRefusal call.position

/-- The statement that several calls leave, one after the other. -/
def afterCalls (s : Statement) (calls : List Call) : Statement := calls.foldl afterCall s

theorem bindAt_of_int? {position : Value} {k : Int} (h : position.int? = some k) (s : Statement)
    (v : Value) :
    s.bindAt position v =
      if k < 1 ∨ (s.slots : Int) < k then .error (s.noSlot position)
      else .ok { s with parameters := s.filled.set (k - 1).toNat v } := by
  by_cases hk : k < 1 ∨ (s.slots : Int) < k <;>
    simp [bindAt, fillAt, Value.isOutside_of_int? h, Value.minus_of_int? h, hk, bind, Except.bind,
      Value.int?, throw, throwThe, MonadExceptOf.throw]

/-- A position that is no integer is refused. -/
theorem exists_refusal {position : Value} (h : position.int? = none)
    (hsub : position.askWith? "__sub__" 1 = none) (s : Statement) (v : Value) :
    ∃ failure, s.bindAt position v = .error failure := by
  cases houtside : position.isOutside s.slots with
  | error failure => exact ⟨failure, by rw [bindAt, houtside]; rfl⟩
  | ok outside =>
    cases outside with
    | true => exact ⟨s.noSlot position, by rw [bindAt, houtside]; rfl⟩
    | false =>
      cases hminus : position.minus 1 with
      | error failure => exact ⟨failure, by rw [bindAt, houtside, hminus]; rfl⟩
      | ok place =>
        have hplace := Value.int?_eq_none_of_minus h hsub hminus
        have hfill : ∃ failure, s.fillAt place v = .error failure := by
          rw [fillAt, hplace]
          exact ⟨_, rfl⟩
        rwa [bindAt, houtside, hminus]

/-! ## The array -/

theorem slots_le_length_filled (s : Statement) : s.slots ≤ s.filled.length := by
  rw [filled, List.length_append, List.length_replicate]
  omega

theorem length_filled (h : s.parameters.length ≤ s.slots) : s.filled.length = s.slots := by
  rw [filled, List.length_append, List.length_replicate]
  omega

theorem filled_of_fresh (h : s.parameters = []) : s.filled = List.replicate s.slots .none := by
  rw [filled, h, List.nil_append, List.length_nil, Nat.sub_zero]

/-- Parameters that are enough for all slots are not filled up. -/
theorem filled_eq_parameters (h : s.slots ≤ s.parameters.length) : s.filled = s.parameters := by
  rw [filled, Nat.sub_eq_zero_of_le h]
  exact List.append_nil _

/-- With its parameters filled up, a statement has the same slots and the same values in them. -/
theorem filled_withFilled (s : Statement) :
    ({ s with parameters := s.filled } : Statement).filled = s.filled :=
  filled_eq_parameters s.slots_le_length_filled

/-- The statement with a value in a slot, counted from one. -/
def withSlot (s : Statement) (k : Nat) (v : Value) : Statement :=
  { s with parameters := s.filled.set (k - 1) v }

theorem slots_le_withSlot (s : Statement) (k : Nat) (v : Value) :
    s.slots ≤ (s.withSlot k v).parameters.length := by
  show s.slots ≤ (s.filled.set (k - 1) v).length
  rw [List.length_set]
  exact s.slots_le_length_filled

@[simp]
theorem withSlot_filled (s : Statement) (k : Nat) (v : Value) :
    (s.withSlot k v).filled = s.filled.set (k - 1) v :=
  filled_eq_parameters (s.slots_le_withSlot k v)

theorem withSlot_comm (s : Statement) {k l : Nat} (hne : k - 1 ≠ l - 1) (v w : Value) :
    (s.withSlot k v).withSlot l w = (s.withSlot l w).withSlot k v := by
  show { s with parameters := (s.withSlot k v).filled.set (l - 1) w } =
    { s with parameters := (s.withSlot l w).filled.set (k - 1) v }
  rw [withSlot_filled, withSlot_filled, List.set_comm _ _ hne]

/-! ## What a refused call leaves -/

theorem afterRefusal_cases (s : Statement) (position : Value) :
    s.afterRefusal position = s ∨ s.afterRefusal position = { s with parameters := s.filled } := by
  unfold afterRefusal
  split
  · exact .inr rfl
  · exact .inl rfl

@[simp]
theorem afterRefusal_slots (s : Statement) (position : Value) :
    (s.afterRefusal position).slots = s.slots := by
  rcases s.afterRefusal_cases position with h | h <;> rw [h]
  rfl

@[simp]
theorem afterRefusal_filled (s : Statement) (position : Value) :
    (s.afterRefusal position).filled = s.filled := by
  rcases s.afterRefusal_cases position with h | h <;> rw [h]
  exact s.filled_withFilled

/-- What a refused call leaves behind does not show once a value is bound. -/
theorem afterRefusal_withSlot (s : Statement) (position : Value) (k : Nat) (v : Value) :
    (s.afterRefusal position).withSlot k v = s.withSlot k v := by
  rcases s.afterRefusal_cases position with h | h <;> rw [h]
  rw [withSlot, filled_withFilled]
  rfl

/-- A statement with parameters for all slots is left as it is. -/
theorem afterRefusal_of_le (h : s.slots ≤ s.parameters.length) (position : Value) :
    s.afterRefusal position = s := by
  rcases s.afterRefusal_cases position with hsame | hfilled
  · exact hsame
  · rw [hfilled, filled_eq_parameters h]

theorem withSlot_afterRefusal (s : Statement) (k : Nat) (v position : Value) :
    (s.withSlot k v).afterRefusal position = s.withSlot k v :=
  afterRefusal_of_le (s.slots_le_withSlot k v) position

theorem afterRefusal_comm (s : Statement) (first second : Value) :
    (s.afterRefusal first).afterRefusal second = (s.afterRefusal second).afterRefusal first := by
  have hfilled := fun position => afterRefusal_of_le
    (s := { s with parameters := s.filled }) s.slots_le_length_filled position
  rcases s.afterRefusal_cases first with h | h <;>
    rcases s.afterRefusal_cases second with h' | h' <;>
    simp only [h, h', hfilled]

/-! ## What a call leaves -/

variable {call : Call}

/-- The position of a call is no object that brings a subtraction of its own.  All other positions
are numbers, or they cannot be moved. -/
def Call.IsPlain (call : Call) : Prop := call.position.askWith? "__sub__" 1 = none

/-- A call meets one of the slots. -/
def Call.Meets (call : Call) (count k : Nat) : Prop := call.isAt k = true ∧ 1 ≤ k ∧ k ≤ count

/-- A call that binds at a slot is done, and changes the slot. -/
theorem bindAt_of_meets {k : Nat} (h : call.Meets s.slots k) :
    s.bindAt call.position call.value = .ok (s.withSlot k call.value) := by
  obtain ⟨hat, hpos, hle⟩ := h
  have hint : call.position.int? = some (k : Int) := beq_iff_eq.1 hat
  have hplace : ((k : Int) - 1).toNat = k - 1 := by omega
  rw [bindAt_of_int? hint, if_neg (by omega), hplace]
  rfl

theorem afterCall_of_meets (s : Statement) {k : Nat} (h : call.Meets s.slots k) :
    s.afterCall call = s.withSlot k call.value := by
  rw [afterCall, bindAt_of_meets h]

/-- A call is refused since its position is none of the slots', and leaves the statement alone. -/
structure Refuses (s : Statement) (call : Call) : Prop where
  bindAt_eq : s.bindAt call.position call.value = .error (s.noSlot call.position)
  afterCall_eq : s.afterCall call = s

theorem refuses_of_isOutside (h : call.position.isOutside s.slots = .ok true) :
    s.Refuses call := by
  have hbind : s.bindAt call.position call.value = .error (s.noSlot call.position) := by
    rw [bindAt, h]
    rfl
  refine ⟨hbind, ?_⟩
  rw [afterCall, hbind]
  show s.afterRefusal call.position = s
  rw [afterRefusal, h]

theorem refuses_of_int? {k : Int} (h : call.position.int? = some k)
    (hout : k < 1 ∨ (s.slots : Int) < k) : s.Refuses call :=
  refuses_of_isOutside (by rw [Value.isOutside_of_int? h, decide_eq_true hout])

/-- Any call that meets no slot is refused. -/
theorem afterCall_of_not_meets (s : Statement) (h : ∀ k, ¬ call.Meets s.slots k)
    (hplain : call.IsPlain) :
    s.afterCall call = s.afterRefusal call.position := by
  have hrefused : ∃ failure, s.bindAt call.position call.value = .error failure := by
    cases hint : call.position.int? with
    | none => exact exists_refusal hint hplain s call.value
    | some k =>
      have hout : k < 1 ∨ (s.slots : Int) < k := by
        by_contra hinside
        refine h k.toNat ⟨?_, by omega, by omega⟩
        rw [Call.isAt, hint, Int.toNat_of_nonneg (by omega)]
        exact beq_self_eq_true _
      exact ⟨_, (refuses_of_int? hint hout).bindAt_eq⟩
  obtain ⟨failure, hfailure⟩ := hrefused
  rw [afterCall, hfailure]

/-- A call binds at a slot, or it is refused. -/
theorem meets_or_refused (hplain : call.IsPlain) (s : Statement) :
    (∃ k, call.Meets s.slots k ∧ s.afterCall call = s.withSlot k call.value) ∨
    (∀ k, ¬ call.Meets s.slots k) ∧ s.afterCall call = s.afterRefusal call.position := by
  by_cases h : ∃ k, call.Meets s.slots k
  · obtain ⟨k, hk⟩ := h
    exact .inl ⟨k, hk, s.afterCall_of_meets hk⟩
  · have hnone := not_exists.1 h
    exact .inr ⟨hnone, s.afterCall_of_not_meets hnone hplain⟩

theorem afterCall_slots (hplain : call.IsPlain) (s : Statement) :
    (s.afterCall call).slots = s.slots := by
  rcases meets_or_refused hplain s with ⟨k, -, h⟩ | ⟨-, h⟩
  · rw [h]
    rfl
  · rw [h, afterRefusal_slots]

theorem length_parameters_afterCall (hplain : call.IsPlain)
    (h : s.parameters.length ≤ s.slots) :
    (s.afterCall call).parameters.length ≤ s.slots := by
  have hfilled := length_filled h
  rcases meets_or_refused hplain s with ⟨k, -, hcall⟩ | ⟨-, hcall⟩ <;> rw [hcall]
  · exact (List.length_set.trans hfilled).le
  · rcases s.afterRefusal_cases call.position with hsame | hfill
    · rwa [hsame]
    · rw [hfill]
      exact hfilled.le

/-- Once there are parameters for all slots, there are so for good. -/
theorem slots_le_afterCall (hplain : call.IsPlain)
    (h : s.slots ≤ s.parameters.length) : s.slots ≤ (s.afterCall call).parameters.length := by
  rcases meets_or_refused hplain s with ⟨k, -, hcall⟩ | ⟨-, hcall⟩ <;> rw [hcall]
  · exact s.slots_le_withSlot k call.value
  · rwa [afterRefusal_of_le h]

/-- Calls that do not meet one slot may come in either order. -/
theorem afterCall_comm {first second : Call} (hfirst : first.IsPlain) (hsecond : second.IsPlain)
    (s : Statement) (h : ∀ k, ¬ (first.Meets s.slots k ∧ second.Meets s.slots k)) :
    (s.afterCall first).afterCall second = (s.afterCall second).afterCall first := by
  -- refused calls have to be looked at as well: one may fill the parameters up
  rcases meets_or_refused hfirst s with ⟨k, hk, hcall⟩ | ⟨hnone, hcall⟩ <;>
    rcases meets_or_refused hsecond s with ⟨l, hl, hcall'⟩ | ⟨hnone', hcall'⟩ <;>
    rw [hcall, hcall']
  · have hne : k - 1 ≠ l - 1 := by
      intro heq
      obtain rfl : k = l := by
        have hpos := hk.2.1
        have hpos' := hl.2.1
        omega
      exact h k ⟨hk, hl⟩
    rw [(s.withSlot k _).afterCall_of_meets hl, (s.withSlot l _).afterCall_of_meets hk,
      withSlot_comm s hne]
  · rw [(s.withSlot k _).afterCall_of_not_meets hnone' hsecond, withSlot_afterRefusal,
      (s.afterRefusal _).afterCall_of_meets (by rwa [afterRefusal_slots]), afterRefusal_withSlot]
  · rw [(s.withSlot l _).afterCall_of_not_meets hnone hfirst, withSlot_afterRefusal,
      (s.afterRefusal _).afterCall_of_meets (by rwa [afterRefusal_slots]), afterRefusal_withSlot]
  · rw [(s.afterRefusal _).afterCall_of_not_meets (by rwa [afterRefusal_slots]) hsecond,
      (s.afterRefusal _).afterCall_of_not_meets (by rwa [afterRefusal_slots]) hfirst,
      afterRefusal_comm]

/-! ## Binding from the left -/

/-- The first slots of a statement hold some values, the others nothing. -/
structure Holds (s : Statement) (values : List Value) (free : Nat) : Prop where
  slots : s.slots = values.length + free
  filled : s.filled = values ++ List.replicate free .none
  /-- Parameters are kept for all slots as soon as one is bound. -/
  parameters : values ≠ [] → s.parameters = s.filled

theorem holds_nil {s : Statement} (h : s.parameters = []) : s.Holds [] s.slots where
  slots := (Nat.zero_add _).symm
  filled := filled_of_fresh h
  parameters := fun hne => absurd rfl hne

/-- Binding at the first free slot. -/
theorem Holds.bindAt {s t : Statement} {values : List Value} {free : Nat} {v : Value}
    (h : s.Holds values (free + 1))
    (hbind : s.bindAt (.int ((values.length + 1 : Nat) : Int)) v = .ok t) :
    t.Holds (values ++ [v]) free := by
  have hslots := h.slots
  have hinside : ¬ (((values.length + 1 : Nat) : Int) < 1 ∨
      (s.slots : Int) < ((values.length + 1 : Nat) : Int)) := by omega
  rw [bindAt_int, if_neg hinside] at hbind
  have hplace : (((values.length + 1 : Nat) : Int) - 1).toNat = values.length := by omega
  have hset : s.filled.set values.length v = (values ++ [v]) ++ List.replicate free .none := by
    rw [h.filled, List.set_append_right _ _ (Nat.le_refl _), Nat.sub_self, List.replicate_succ,
      List.set_cons_zero, List.append_assoc, List.singleton_append]
  rw [hplace, hset] at hbind
  cases hbind
  -- all slots have a parameter from now on, so nothing is filled up any more
  have hfilled : ({ s with parameters := (values ++ [v]) ++ List.replicate free .none } :
      Statement).filled = (values ++ [v]) ++ List.replicate free .none := by
    refine filled_eq_parameters (Nat.le_of_eq ?_)
    show s.slots = _
    rw [hslots, List.length_append, List.length_append, List.length_replicate,
      List.length_singleton]
    omega
  refine ⟨?_, hfilled, fun _ => hfilled.symm⟩
  show s.slots = _
  rw [hslots, List.length_append, List.length_singleton]
  omega

/-- Without a free slot, the parameters are the values. -/
theorem Holds.parameters_eq {s : Statement} {values : List Value} (h : s.Holds values 0) :
    s.parameters = values := by
  have hfilled : s.filled = values := by rw [h.filled, List.replicate_zero, List.append_nil]
  cases values with
  | nil =>
    -- a statement without slots was never bound anything, and has no parameters
    exact (List.append_eq_nil_iff.1 hfilled).1
  | cons v values => rw [h.parameters (List.cons_ne_nil _ _), hfilled]

/-! ## What several calls leave -/

/-- The value of the last of some calls at a position, if there is one. -/
def lastAt? (calls : List Call) (k : Nat) : Option Value :=
  (calls.filter (·.isAt k)).getLast?.map (·.value)

variable {calls : List Call}

theorem afterCalls_concat (s : Statement) (calls : List Call) (call : Call) :
    s.afterCalls (calls ++ [call]) = (s.afterCalls calls).afterCall call := by
  rw [afterCalls, List.foldl_concat]
  rfl

theorem lastAt?_concat (calls : List Call) (call : Call) (k : Nat) :
    lastAt? (calls ++ [call]) k = if call.isAt k then some call.value else lastAt? calls k := by
  rw [lastAt?, List.filter_append]
  by_cases h : call.isAt k = true <;> simp [lastAt?, h]

theorem Call.isAt_unique {call : Call} {k l : Nat} (hk : call.isAt k = true)
    (hl : call.isAt l = true) : k = l := by
  have heq := (beq_iff_eq.1 hk).symm.trans (beq_iff_eq.1 hl)
  exact Int.ofNat_inj.1 (Option.some.inj heq)

theorem afterCalls_slots (hplain : ∀ call ∈ calls, call.IsPlain) (s : Statement) :
    (s.afterCalls calls).slots = s.slots := by
  induction calls using List.reverseRecOn with
  | nil => rfl
  | append_singleton calls call ih =>
    obtain ⟨hcalls, hcall⟩ := List.forall_mem_append.1 hplain
    rw [afterCalls_concat, afterCall_slots (hcall call List.mem_cons_self), ih hcalls]

/-- After several calls, a slot holds what was bound to it last, or else what it held before. -/
theorem getElem?_filled_afterCalls (hplain : ∀ call ∈ calls, call.IsPlain) {k : Nat} (hpos : 1 ≤ k)
    (hle : k ≤ s.slots) :
    (s.afterCalls calls).filled[k - 1]? = (lastAt? calls k).or s.filled[k - 1]? := by
  -- the last call wins, so the induction takes calls off the end
  induction calls using List.reverseRecOn with
  | nil => rfl
  | append_singleton calls call ih =>
    obtain ⟨hcalls, hcall⟩ := List.forall_mem_append.1 hplain
    have hslots := afterCalls_slots hcalls s
    rw [afterCalls_concat, lastAt?_concat]
    rcases meets_or_refused (hcall call List.mem_cons_self) (s.afterCalls calls) with
      ⟨l, ⟨hat, hl, -⟩, hset⟩ | ⟨hnone, hrefused⟩
    · rw [hset, withSlot_filled]
      by_cases hkl : k = l
      · subst hkl
        have hlt : k - 1 < (s.afterCalls calls).filled.length := by
          have hlength := (s.afterCalls calls).slots_le_length_filled
          omega
        rw [if_pos hat, List.getElem?_set_self hlt]
        rfl
      · have hnot : ¬ call.isAt k = true := fun hk => hkl (Call.isAt_unique hk hat)
        rw [if_neg hnot, List.getElem?_set_ne (by omega), ih hcalls]
    · have hnot : ¬ call.isAt k = true := fun hk => hnone k ⟨hk, hpos, hslots.symm ▸ hle⟩
      rw [hrefused, afterRefusal_filled, if_neg hnot, ih hcalls]

theorem length_parameters_afterCalls (hplain : ∀ call ∈ calls, call.IsPlain)
    (h : s.parameters.length ≤ s.slots) :
    (s.afterCalls calls).parameters.length ≤ s.slots := by
  induction calls using List.reverseRecOn with
  | nil => exact h
  | append_singleton calls call ih =>
    obtain ⟨hcalls, hcall⟩ := List.forall_mem_append.1 hplain
    have hslots := afterCalls_slots hcalls s
    rw [afterCalls_concat, ← hslots]
    exact length_parameters_afterCall (hcall call List.mem_cons_self) (hslots.symm ▸ ih hcalls)

/-- One call that binds at a slot is enough for parameters for all slots. -/
theorem slots_le_afterCalls (hplain : ∀ call ∈ calls, call.IsPlain)
    (hmeets : ∃ call ∈ calls, ∃ k, call.Meets s.slots k) :
    s.slots ≤ (s.afterCalls calls).parameters.length := by
  induction calls using List.reverseRecOn with
  | nil =>
    obtain ⟨call, hmem, -⟩ := hmeets
    cases hmem
  | append_singleton calls last ih =>
    obtain ⟨hcalls, hlast⟩ := List.forall_mem_append.1 hplain
    have hslots := afterCalls_slots hcalls s
    rw [afterCalls_concat]
    obtain ⟨call, hmem, k, hk⟩ := hmeets
    rcases List.mem_append.1 hmem with hbefore | hsame
    · have hfull := ih hcalls ⟨call, hbefore, k, hk⟩
      rw [← hslots] at hfull ⊢
      exact slots_le_afterCall (hlast last List.mem_cons_self) hfull
    · obtain rfl := List.mem_singleton.1 hsame
      rw [← hslots] at hk ⊢
      rw [(s.afterCalls calls).afterCall_of_meets hk]
      exact slots_le_withSlot _ k call.value

/-! ## The slots as an array -/

/-- Once a call bound at a slot, the parameters are what was bound to the slots last. -/
theorem parameters_afterCalls (hfresh : s.parameters = []) (hplain : ∀ call ∈ calls, call.IsPlain)
    (hmeets : ∃ call ∈ calls, ∃ k, call.Meets s.slots k) :
    (s.afterCalls calls).parameters =
      (List.range' 1 s.slots).map fun k => (lastAt? calls k).getD .none := by
  have hslots := afterCalls_slots hplain s
  have hfull := slots_le_afterCalls hplain hmeets
  have hlength := length_parameters_afterCalls hplain (s := s) (by rw [hfresh]; exact Nat.zero_le _)
  have hfilled := filled_eq_parameters (hslots.symm ▸ hfull)
  -- the parameters are the filled up ones now, which are known entry by entry
  apply List.ext_getElem?
  intro i
  by_cases hi : i < s.slots
  · have hentry := getElem?_filled_afterCalls hplain (Nat.le_add_left 1 i) hi
    rw [Nat.add_sub_cancel, hfilled, filled_of_fresh hfresh,
      List.getElem?_replicate_of_lt hi] at hentry
    rw [hentry, List.getElem?_map, List.getElem?_range' hi, Nat.one_mul, Nat.add_comm 1 i]
    cases hlast : lastAt? calls (i + 1) <;> simp [hlast]
  · rw [List.getElem?_eq_none (by omega), List.getElem?_eq_none (by simp; omega)]

/-- The calls that bind given values at given positions. -/
def callsAt (values : Nat → Value) (order : List Nat) : List Call :=
  order.map fun k => { position := .int (k : Nat), value := values k }

theorem isPlain_of_mem_callsAt {values : Nat → Value} {order : List Nat} {call : Call}
    (h : call ∈ callsAt values order) : call.IsPlain := by
  obtain ⟨k, -, rfl⟩ := List.mem_map.1 h
  rfl

theorem lastAt?_callsAt (values : Nat → Value) {order : List Nat} {k : Nat} (hnodup : order.Nodup)
    (hmem : k ∈ order) : lastAt? (callsAt values order) k = some (values k) := by
  have hfilter : order.filter (fun l => (Call.mk (.int (l : Nat)) (values l)).isAt k) = [k] := by
    have hat : (fun l : Nat => (Call.mk (.int (l : Nat)) (values l)).isAt k) = (· == k) := by
      funext l
      rw [Bool.eq_iff_iff, Call.isAt, beq_iff_eq, beq_iff_eq]
      exact Option.some_inj.trans Int.ofNat_inj
    rw [hat, List.filter_beq, List.count_eq_one_of_mem hnodup hmem]
    rfl
  rw [lastAt?, callsAt, List.filter_map, Function.comp_def, hfilter]
  rfl

/-- Values for all positions may be bound in any order. -/
theorem parameters_callsAt (hfresh : s.parameters = []) (values : Nat → Value) {order : List Nat}
    (horder : order.Perm (List.range' 1 s.slots)) :
    (s.afterCalls (callsAt values order)).parameters = (List.range' 1 s.slots).map values := by
  have hplain : ∀ call ∈ callsAt values order, call.IsPlain := fun _ => isPlain_of_mem_callsAt
  by_cases hslots : s.slots = 0
  · -- without slots there are no calls
    rw [hslots] at horder ⊢
    obtain rfl := horder.eq_nil
    exact hfresh
  · have hone : 1 ∈ List.range' 1 s.slots := List.mem_range'_1.2 ⟨le_refl 1, by omega⟩
    have hmeets : ∃ call ∈ callsAt values order, ∃ k, call.Meets s.slots k :=
      ⟨_, List.mem_map_of_mem (horder.mem_iff.2 hone), 1, rfl, le_refl 1, by omega⟩
    rw [parameters_afterCalls hfresh hplain hmeets]
    refine List.map_congr_left fun k hk => ?_
    have hnodup := horder.nodup_iff.2 List.nodup_range'
    rw [lastAt?_callsAt values hnodup (horder.mem_iff.2 hk)]
    rfl

/-- The slots of a statement behave like an array.  After any calls, a call at an integer is done
exactly if that counts a slot, and one at any number outside of the slots is refused and leaves the
statement alone; once one call met a slot, there is a parameter for each of them, the one bound to
it last; calls at different slots may come in either order; and values for all slots may be bound in
any order. -/
theorem calls_fill_slots (hfresh : s.parameters = []) (calls : List Call)
    (hplain : ∀ call ∈ calls, call.IsPlain) :
    let t := s.afterCalls calls
    (∀ (call : Call) (k : Int), call.position.int? = some k →
      (1 ≤ k ∧ k ≤ s.slots → t.bindAt call.position call.value = .ok (t.afterCall call)) ∧
      (k < 1 ∨ s.slots < k → t.Refuses call)) ∧
    (∀ call : Call, call.position.isOutside s.slots = .ok true → t.Refuses call) ∧
    ((∃ call ∈ calls, ∃ k, call.Meets s.slots k) →
      t.parameters = (List.range' 1 s.slots).map fun k => (lastAt? calls k).getD .none) ∧
    (∀ first second : Call, first.IsPlain → second.IsPlain →
      (∀ k, ¬ (first.Meets s.slots k ∧ second.Meets s.slots k)) →
      s.afterCalls (calls ++ [first, second]) = s.afterCalls (calls ++ [second, first])) ∧
    ∀ (values : Nat → Value) (order : List Nat), order.Perm (List.range' 1 s.slots) →
      (s.afterCalls (callsAt values order)).parameters = (List.range' 1 s.slots).map values := by
  intro t
  have hslots : t.slots = s.slots := afterCalls_slots hplain s
  refine ⟨fun call k hint => ⟨?_, ?_⟩, fun call hout => refuses_of_isOutside (hslots.symm ▸ hout),
    parameters_afterCalls hfresh hplain, ?_, ?_⟩
  · rintro ⟨hpos, hle⟩
    have hat : call.isAt k.toNat = true := by
      rw [Call.isAt, hint, Int.toNat_of_nonneg (by omega)]
      exact beq_self_eq_true _
    have hmeets : call.Meets t.slots k.toNat := ⟨hat, by omega, by omega⟩
    rw [bindAt_of_meets hmeets, t.afterCall_of_meets hmeets]
  · intro hout
    exact refuses_of_int? hint (hslots.symm ▸ hout)
  · intro first second hfirst hsecond hapart
    have hcomm := afterCall_comm hfirst hsecond t (hslots.symm ▸ hapart)
    rw [afterCalls, afterCalls, List.foldl_append, List.foldl_append]
    exact hcomm
  · exact fun values order => parameters_callsAt hfresh values

/-- Two slots: the second one is bound twice, the first one at a truth value, and calls at a text
and at a position behind the slots are refused in between. -/
theorem calls_fill_two_slots :
    let s : Statement :=
      { template :=
          { source := "?1, ?2"
            segments := [.placeholder { index := 1 }, .literal ", ", .placeholder { index := 2 }] }
        sql := "?, ?" }
    let calls : List Call :=
      [⟨.int 2, .text "b"⟩, ⟨.int 3, .text "x"⟩, ⟨.bool true, .text "a"⟩, ⟨.text "1", .text "y"⟩,
        ⟨.int 2, .text "c"⟩]
    (s.parameters = [] ∧ (∀ call ∈ calls, call.IsPlain) ∧
        ∃ call ∈ calls, ∃ k, call.Meets s.slots k) ∧
      (s.afterCalls calls).parameters = [.text "a", .text "c"] ∧
      (s.afterCalls calls).afterCall ⟨.int 0, .text "z"⟩ = s.afterCalls calls := by
  intro s calls
  have hplain : ∀ call ∈ calls, call.IsPlain := by
    simp only [calls, List.forall_mem_cons, List.not_mem_nil, false_imp_iff, implies_true, and_true]
    exact ⟨rfl, rfl, rfl, rfl, rfl⟩
  have hmeets : ∃ call ∈ calls, ∃ k, call.Meets s.slots k :=
    ⟨_, List.mem_cons_self, 2, rfl, by decide, by decide⟩
  obtain ⟨hsingle, -, hparameters, -, -⟩ := calls_fill_slots (s := s) rfl calls hplain
  obtain ⟨-, hout⟩ := hsingle ⟨.int 0, .text "z"⟩ 0 rfl
  exact ⟨⟨rfl, hplain, hmeets⟩, hparameters hmeets, (hout (.inl (by decide))).afterCall_eq⟩

end Statement
end BoundUpdate
