import BoundUpdate.Proofs.Failure.Sequence
import BoundUpdate.Proofs.Json.Values

namespace BoundUpdate
namespace Json

/-!
# Values taken as dictionaries

An object is taken as it is.  Of the other values those are tables whose items
are pairs: a list of lists of two items, of texts of two characters or of objects
with two names.  Taking any other value as a dictionary fails, and not by a
failure of configuration.
-/

/-- Whether running through a value gives two items, of which the first one may be a key. -/
def IsPair (v : Value) : Prop :=
  ∃ k x, v.items? = some [k, x] ∧ k.keyFault? = none

/-- Whether a value can be taken as a dictionary. -/
def IsTable (v : Value) : Prop :=
  (∃ entries, v.entries? = some entries) ∨
    ∃ items, v.items? = some items ∧ ∀ item ∈ items, IsPair item

variable {v : Value} {items : List Value}

/-! ## Items -/

theorem isValue_of_items (h : IsValue v) (hitems : v.items? = some items) :
    ∀ item ∈ items, IsValue item := by
  cases h with
  | none | bool | int | float => cases hitems
  | text s =>
    cases hitems
    intro item hitem
    obtain ⟨c, -, rfl⟩ := List.mem_map.1 hitem
    exact .text _
  | list values =>
    cases hitems
    exact values
  | dict named _ =>
    cases hitems
    intro item hitem
    obtain ⟨entry, hentry, rfl⟩ := List.mem_map.1 hitem
    obtain ⟨name, hname⟩ := named.texts entry hentry
    exact hname ▸ .text name

theorem toItems_eq (h : IsValue v) :
    v.toItems = match v.items? with
      | some items => .ok items
      | none => .error v.notIterable := by
  cases h <;> rfl

theorem kind_notIterable : v.notIterable.kind ≠ .configuration := by
  simp [Value.notIterable, Failure.kind]

/-! ## Pairs -/

theorem neverReported_asKey (h : IsValue v) : NeverReported v.asKey := by
  have hkind : (Value.notHashable v).kind ≠ .configuration := by
    simp [Value.notHashable, Failure.kind]
  cases h with
  | list | dict => exact neverReported_error hkind
  | _ => exact neverReported_ok _

theorem neverReported_pairOf (h : IsValue v) (position : Nat) :
    NeverReported (Value.pairOf position v) := by
  unfold Value.pairOf
  split
  · exact neverReported_error (by simp [Failure.kind])
  · next k x hitems =>
    exact (neverReported_asKey (isValue_of_items h hitems k List.mem_cons_self)).map
  · exact neverReported_error (by simp [Failure.kind])

theorem exists_pairOf_iff (position : Nat) :
    (∃ pair, Value.pairOf position v = .ok pair) ↔ IsPair v := by
  constructor
  · rintro ⟨pair, h⟩
    unfold Value.pairOf at h
    split at h
    · cases h
    · next k x hitems =>
      refine ⟨k, x, hitems, ?_⟩
      cases hfault : k.keyFault? with
      | none => rfl
      | some failure =>
        rw [Value.asKey, hfault] at h
        cases h
    · cases h
  · rintro ⟨k, x, hitems, hfault⟩
    refine ⟨(k, x), ?_⟩
    simp only [Value.pairOf, hitems, Value.asKey, hfault]
    rfl

theorem isValue_of_pairOf (h : IsValue v) {position : Nat} {pair : Value × Value}
    (hpair : Value.pairOf position v = .ok pair) : IsValue pair.2 := by
  unfold Value.pairOf at hpair
  split at hpair
  · cases hpair
  · next k x hitems =>
    obtain ⟨key, -, rfl⟩ := except_map_ok hpair
    exact isValue_of_items h hitems x (List.mem_cons_of_mem k List.mem_cons_self)
  · cases hpair

theorem neverReported_pairsOf (h : ∀ item ∈ items, IsValue item) (position : Nat) :
    NeverReported (Value.pairsOf position items) := by
  induction items generalizing position with
  | nil => exact neverReported_ok []
  | cons first rest ih =>
    obtain ⟨hfirst, hrest⟩ := List.forall_mem_cons.1 h
    exact (neverReported_pairOf hfirst position).bind fun pair _ =>
      (ih hrest _).bind fun others _ => neverReported_ok _

theorem exists_pairsOf_iff (position : Nat) :
    (∃ pairs, Value.pairsOf position items = .ok pairs) ↔ ∀ item ∈ items, IsPair item := by
  induction items generalizing position with
  | nil => exact iff_of_true ⟨[], rfl⟩ (List.forall_mem_nil _)
  | cons first rest ih =>
    rw [List.forall_mem_cons, ← exists_pairOf_iff position, ← ih (position + 1)]
    constructor
    · rintro ⟨pairs, h⟩
      obtain ⟨pair, hpair, h⟩ := except_bind_ok h
      obtain ⟨others, hothers, -⟩ := except_bind_ok h
      exact ⟨⟨pair, hpair⟩, others, hothers⟩
    · rintro ⟨⟨pair, hpair⟩, others, hothers⟩
      refine ⟨pair :: others, ?_⟩
      rw [Value.pairsOf, hpair, hothers]
      rfl

theorem isValue_of_pairsOf (h : ∀ item ∈ items, IsValue item) {position : Nat}
    {pairs : Value.Entries} (hpairs : Value.pairsOf position items = .ok pairs) :
    ∀ pair ∈ pairs, IsValue pair.2 := by
  induction items generalizing position pairs with
  | nil =>
    cases hpairs
    exact List.forall_mem_nil _
  | cons first rest ih =>
    obtain ⟨hfirst, hrest⟩ := List.forall_mem_cons.1 h
    obtain ⟨pair, hpair, hpairs⟩ := except_bind_ok hpairs
    obtain ⟨others, hothers, hpairs⟩ := except_bind_ok hpairs
    cases hpairs
    exact List.forall_mem_cons.2 ⟨isValue_of_pairOf hfirst hpair, ih hrest hothers⟩

/-! ## Tables -/

theorem toEntries_of_items (h : IsValue v) (hnone : v.entries? = none) :
    v.toEntries = match v.items? with
      | some items => (Value.pairsOf 0 items).map (Value.Entries.merge [])
      | none => .error v.notIterable := by
  simp only [Value.toEntries, hnone, toItems_eq h]
  cases v.items? with
  | none => rfl
  | some items =>
    change (do return Value.Entries.merge [] (← Value.pairsOf 0 items)) =
      (Value.pairsOf 0 items).map (Value.Entries.merge [])
    cases Value.pairsOf 0 items <;> rfl

theorem toEntries_of_entries {entries : Value.Entries} (h : v.entries? = some entries) :
    v.toEntries = .ok entries := by
  simp only [Value.toEntries, h]

/-- Taking a value as a dictionary never fails by a failure of configuration. -/
theorem neverReported_toEntries (h : IsValue v) : NeverReported v.toEntries := by
  cases hentries : v.entries? with
  | some entries =>
    rw [toEntries_of_entries hentries]
    exact neverReported_ok entries
  | none =>
    rw [toEntries_of_items h hentries]
    cases hitems : v.items? with
    | none => exact neverReported_error kind_notIterable
    | some items => exact (neverReported_pairsOf (isValue_of_items h hitems) 0).map

theorem exists_toEntries_iff (h : IsValue v) :
    (∃ entries, v.toEntries = .ok entries) ↔ IsTable v := by
  cases hentries : v.entries? with
  | some entries =>
    exact iff_of_true ⟨entries, toEntries_of_entries hentries⟩ (.inl ⟨entries, hentries⟩)
  | none =>
    rw [toEntries_of_items h hentries, IsTable, hentries]
    cases hitems : v.items? with
    | none => simp
    | some items =>
      have hpairs : (∃ pairs, Value.pairsOf 0 items = .ok pairs) ↔ ∀ item ∈ items, IsPair item :=
        exists_pairsOf_iff 0
      simp only [Option.some.injEq, exists_eq_left', reduceCtorEq, exists_false, false_or,
        ← hpairs]
      constructor
      · rintro ⟨entries, h⟩
        obtain ⟨pairs, hpairs, -⟩ := except_map_ok h
        exact ⟨pairs, hpairs⟩
      · rintro ⟨pairs, hpairs⟩
        exact ⟨Value.Entries.merge [] pairs, by rw [hpairs]; rfl⟩

/-- Taking a value as a dictionary reports its failures only where there are none. -/
theorem reported_toEntries_iff (h : IsValue v) : Reported v.toEntries ↔ IsTable v :=
  (neverReported_toEntries h).reported_iff.trans (exists_toEntries_iff h)

/-- The values of a table are values again. -/
theorem isValue_of_toEntries (h : IsValue v) {entries : Value.Entries}
    (hentries : v.toEntries = .ok entries) : ∀ entry ∈ entries, IsValue entry.2 := by
  cases hfound : v.entries? with
  | some found =>
    rw [toEntries_of_entries hfound] at hentries
    cases hentries
    cases h with
    | dict named values =>
      cases hfound
      exact values
    | _ => cases hfound
  | none =>
    rw [toEntries_of_items h hfound] at hentries
    cases hitems : v.items? with
    | none =>
      rw [hitems] at hentries
      cases hentries
    | some items =>
      rw [hitems] at hentries
      obtain ⟨pairs, hpairs, rfl⟩ := except_map_ok hentries
      exact Value.Entries.forall_mem_merge (List.forall_mem_nil _)
        (isValue_of_pairsOf (isValue_of_items h hitems) hpairs)

end Json
end BoundUpdate
