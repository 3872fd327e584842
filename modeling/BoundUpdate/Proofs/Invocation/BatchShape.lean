import BoundUpdate.Invocation.Batch
import BoundUpdate.Proofs.Lookup.Reading

namespace BoundUpdate
namespace Batch

/-!
# Columns and rows

Arguments of a batch either are misshapen or have one common length, unless one
of them fails to tell what it is.  In the second case they are the columns of a
table, whose rows hold, in order, the items of all of them at one place.
-/

open Lookup

variable {arguments : List Value} {m n : Nat} {failure : Failure}

/-- The items that an argument has, each to be read on its own; what is no list or tuple has
none. -/
def columnOf (a : Value) : List (Probe Value) :=
  match firstOutcome (column? a) with
  | .ok (some items) => items
  | _ => []

/-- An argument is a list or tuple of some length. -/
def IsColumn (a : Value) (n : Nat) : Prop :=
  AlwaysGives (column? a) (some (columnOf a)) ∧ (columnOf a).length = n

/-- There are no arguments, some argument is no list or tuple, or two of them differ in length. -/
def Misshapen (arguments : List Value) : Prop :=
  arguments = [] ∨ (∃ a ∈ arguments, AlwaysGives (column? a) none) ∨
    ∃ a ∈ arguments, ∃ b ∈ arguments, ∃ m n, IsColumn a m ∧ IsColumn b n ∧ m ≠ n

/-- There are arguments, and all of them are lists or tuples of one length. -/
def HasLength (arguments : List Value) (n : Nat) : Prop :=
  arguments ≠ [] ∧ ∀ a ∈ arguments, IsColumn a n

/-- Every argument tells whether it is a list or tuple, and its length if it is one. -/
def CanBeAsked (arguments : List Value) : Prop :=
  ∀ a ∈ arguments, ∀ failure, ¬ MayFail (column? a) failure

/-- The items of arguments; what is no list or tuple has none. -/
def itemsOf (arguments : List Value) : List (List (Probe Value)) := arguments.map columnOf

/-- The items of arguments at a place, counted from zero, which are read one after another. -/
def rowAt (arguments : List Value) (i : Nat) : List (Probe Value) :=
  (itemsOf arguments).filterMap fun items => items[i]?

/-! ## Arguments -/

theorem steady_column (a : Value) : Steady (column? a) := by
  unfold column?
  split
  · exact steady_pure _
  · refine (steady_tellsSequence a).bind fun isSequence _ => ?_
    split
    · exact (steady_ofExcept a.count).bind fun n _ => steady_pure _
    · exact steady_pure _

theorem failsOutside_column (a : Value) : FailsOutside (column? a) := by
  unfold column?
  split
  · exact failsOutside_pure _
  · refine (failsOutside_tellsSequence a).bind fun isSequence => ?_
    split
    · exact (failsOutside_ofExcept fun _ => isOutside_of_count).map _
    · exact failsOutside_pure _

theorem columnOf_of_alwaysGives {a : Value} {items : List (Probe Value)}
    (h : AlwaysGives (column? a) (some items)) : columnOf a = items := by
  have hfirst : firstOutcome (column? a) = .ok (some items) := h _
  rw [columnOf, hfirst]

theorem isColumn_of_mayGive {a : Value} {items : List (Probe Value)}
    (h : MayGive (column? a) (some items)) : columnOf a = items ∧ IsColumn a items.length := by
  have halways := (steady_column a).alwaysGives h
  have hitems := columnOf_of_alwaysGives halways
  exact ⟨hitems, hitems ▸ halways, hitems ▸ rfl⟩

/-- A list or tuple is a column of its items. -/
theorem columnOf_of_sequence {a : Value} {items : List Value} (h : a.sequence? = some items) :
    columnOf a = items.map pure ∧ IsColumn a items.length := by
  have hcolumn : column? a = pure (some (items.map pure)) := by rw [column?, h]
  have hgives : MayGive (column? a) (some (items.map pure)) :=
    hcolumn ▸ (alwaysGives_pure _).mayGive
  obtain ⟨hitems, hlength⟩ := isColumn_of_mayGive hgives
  rw [List.length_map] at hlength
  exact ⟨hitems, hlength⟩

/-- Lists and tuples of one length have this length. -/
theorem hasLength_of_sequences (hsome : arguments ≠ [])
    (h : ∀ a ∈ arguments, ∃ items, a.sequence? = some items ∧ items.length = n) :
    HasLength arguments n := by
  refine ⟨hsome, fun a ha => ?_⟩
  obtain ⟨items, hsequence, rfl⟩ := h a ha
  exact (columnOf_of_sequence hsequence).2

/-- What is no list or tuple, and does not tell its class itself, is no column. -/
theorem column_of_not_sequence {a : Value} (h : a.sequence? = none)
    (hsilent : tellsClass a = false) : column? a = pure none := by
  rw [column?, h, tellsSequence, tells_of_silent hsilent, tells_of_silent hsilent]
  rfl

/-- Arguments that do not tell their class themselves tell what they are. -/
theorem canBeAsked_of_silent (h : ∀ a ∈ arguments, tellsClass a = false) :
    CanBeAsked arguments := by
  intro a ha failure
  cases hsequence : a.sequence? with
  | none => exact column_of_not_sequence hsequence (h a ha) ▸ not_mayFail_pure _
  | some items => exact (columnOf_of_sequence hsequence).2.1.not_mayFail

/-! ## Columns -/

theorem columnsFrom_gives {position : Nat} {found : List (List (Probe Value))}
    (h : MayGive (columnsFrom position arguments) found) :
    found = itemsOf arguments ∧
      ∀ a ∈ arguments, AlwaysGives (column? a) (some (columnOf a)) := by
  induction arguments generalizing position found with
  | nil => exact ⟨h.eq_of_pure, List.forall_mem_nil _⟩
  | cons a rest ih =>
    obtain ⟨column, hcolumn, h⟩ := h.cases_of_bind
    cases column with
    | none => exact absurd h not_mayGive_throw
    | some items =>
      obtain ⟨others, hothers, h⟩ := h.cases_of_bind
      obtain ⟨hrest, halways⟩ := ih hothers
      obtain ⟨hitems, hcolumn, -⟩ := isColumn_of_mayGive hcolumn
      refine ⟨?_, List.forall_mem_cons.2 ⟨hcolumn, halways⟩⟩
      rw [h.eq_of_pure, hrest, itemsOf, itemsOf, List.map_cons, hitems]

theorem alwaysGives_columnsFrom (position : Nat)
    (h : ∀ a ∈ arguments, AlwaysGives (column? a) (some (columnOf a))) :
    AlwaysGives (columnsFrom position arguments) (itemsOf arguments) := by
  induction arguments generalizing position with
  | nil => exact alwaysGives_pure []
  | cons a rest ih =>
    obtain ⟨ha, hrest⟩ := List.forall_mem_cons.1 h
    exact ha.bind ((ih (position + 1) hrest).bind (alwaysGives_pure _))

theorem of_mayFail_columnsFrom {position : Nat}
    (h : MayFail (columnsFrom position arguments) failure) :
    (∃ fault, failure = .batchShape fault ∧ ∃ a ∈ arguments, AlwaysGives (column? a) none) ∨
      ∃ a ∈ arguments, MayFail (column? a) failure := by
  induction arguments generalizing position with
  | nil => exact absurd h (not_mayFail_pure _)
  | cons a rest ih =>
    rcases h.cases_of_bind with hcolumn | ⟨column, hcolumn, h⟩
    · exact .inr ⟨a, List.mem_cons_self, hcolumn⟩
    · cases column with
      | none =>
        exact .inl ⟨_, h.eq_of_throw, a, List.mem_cons_self, (steady_column a).alwaysGives hcolumn⟩
      | some items =>
        rcases ih h.of_map with ⟨fault, hfault, b, hb, hnone⟩ | ⟨b, hb, hfails⟩
        · exact .inl ⟨fault, hfault, b, List.mem_cons_of_mem _ hb, hnone⟩
        · exact .inr ⟨b, List.mem_cons_of_mem _ hb, hfails⟩

/-- Lengths have a common one, there are none, or two of them differ. -/
theorem commonLength_cases (lengths : List Nat) :
    (∃ n, commonLength lengths = .ok n ∧ lengths ≠ [] ∧ ∀ m ∈ lengths, m = n) ∨
    ((∃ fault, commonLength lengths = .error fault) ∧
      (lengths = [] ∨ ∃ m ∈ lengths, ∃ n ∈ lengths, m ≠ n)) := by
  cases lengths with
  | nil => exact .inr ⟨⟨_, rfl⟩, .inl rfl⟩
  | cons n rest =>
    by_cases h : rest.all (· == n) = true
    · refine .inl ⟨n, if_pos h, List.cons_ne_nil _ _, List.forall_mem_cons.2 ⟨rfl, ?_⟩⟩
      simpa using h
    · obtain ⟨m, hm, hne⟩ : ∃ m ∈ rest, m ≠ n := by simpa using h
      exact .inr ⟨⟨_, if_neg h⟩,
        .inr ⟨m, List.mem_cons_of_mem _ hm, n, List.mem_cons_self, hne⟩⟩

theorem mem_lengths {k : Nat} (h : k ∈ (itemsOf arguments).map List.length) :
    ∃ a ∈ arguments, (columnOf a).length = k := by
  rw [itemsOf, List.map_map] at h
  exact List.mem_map.1 h

/-- Arguments whose columns are found have the length that is found, and their items. -/
theorem hasLength_of_columns {found : List (List (Probe Value))}
    (h : MayGive (Batch.columns arguments) (n, found)) :
    HasLength arguments n ∧ found = itemsOf arguments := by
  obtain ⟨columns, hcolumns, h⟩ := h.cases_of_bind
  obtain ⟨rfl, halways⟩ := columnsFrom_gives hcolumns
  rcases commonLength_cases ((itemsOf arguments).map List.length) with
    ⟨k, hk, hsome, hall⟩ | ⟨⟨fault, hfault⟩, -⟩
  · rw [hk] at h
    obtain ⟨rfl, rfl⟩ := Prod.mk.inj h.eq_of_pure
    refine ⟨⟨?_, fun a ha => ⟨halways a ha, hall _ ?_⟩⟩, rfl⟩
    · rintro rfl
      exact hsome rfl
    · rw [itemsOf, List.map_map]
      exact List.mem_map.2 ⟨a, ha, rfl⟩
  · rw [hfault] at h
    exact absurd h not_mayGive_throw

theorem alwaysGives_columns (h : HasLength arguments n) :
    AlwaysGives (Batch.columns arguments) (n, itemsOf arguments) := by
  obtain ⟨hsome, hcolumns⟩ := h
  refine (alwaysGives_columnsFrom 1 fun a ha => (hcolumns a ha).1).bind ?_
  have hall : ∀ k ∈ (itemsOf arguments).map List.length, k = n := by
    intro k hk
    obtain ⟨a, ha, rfl⟩ := mem_lengths hk
    exact (hcolumns a ha).2
  rcases commonLength_cases ((itemsOf arguments).map List.length) with
    ⟨k, hk, hne, hsame⟩ | ⟨-, hnone | ⟨k, hk, l, hl, hne⟩⟩
  · obtain ⟨l, hl⟩ := List.exists_mem_of_ne_nil _ hne
    rw [hk, ← hsame l hl, hall l hl]
    exact alwaysGives_pure _
  · rw [itemsOf, List.map_map, List.map_eq_nil_iff] at hnone
    exact absurd hnone hsome
  · exact absurd ((hall k hk).trans (hall l hl).symm) hne

/-- The columns of arguments are not found because they are misshapen, or because one of them fails
to tell what it is. -/
theorem of_mayFail_columns (h : MayFail (Batch.columns arguments) failure) :
    (∃ fault, failure = .batchShape fault ∧ Misshapen arguments) ∨
      ∃ a ∈ arguments, MayFail (column? a) failure := by
  rcases h.cases_of_bind with h | ⟨columns, hcolumns, h⟩
  · exact (of_mayFail_columnsFrom h).imp_left fun ⟨fault, hfault, hnone⟩ =>
      ⟨fault, hfault, .inr (.inl hnone)⟩
  · obtain ⟨rfl, halways⟩ := columnsFrom_gives hcolumns
    rcases commonLength_cases ((itemsOf arguments).map List.length) with
      ⟨k, hk, -⟩ | ⟨⟨fault, hfault⟩, hshape⟩
    · rw [hk] at h
      exact absurd h (not_mayFail_pure _)
    · rw [hfault] at h
      refine .inl ⟨fault, h.eq_of_throw, ?_⟩
      rcases hshape with hnone | ⟨k, hk, l, hl, hne⟩
      · rw [itemsOf, List.map_map, List.map_eq_nil_iff] at hnone
        exact .inl hnone
      · obtain ⟨a, ha, rfl⟩ := mem_lengths hk
        obtain ⟨b, hb, rfl⟩ := mem_lengths hl
        exact .inr (.inr ⟨a, ha, b, hb, _, _, ⟨halways a ha, rfl⟩, ⟨halways b hb, rfl⟩, hne⟩)

theorem steady_columns (arguments : List Value) : Steady (Batch.columns arguments) := by
  have hfrom : ∀ position (arguments : List Value), Steady (columnsFrom position arguments) := by
    intro position arguments
    induction arguments generalizing position with
    | nil => exact steady_pure _
    | cons a rest ih =>
      refine (steady_column a).bind fun column _ => ?_
      cases column with
      | none => exact steady_throw _
      | some items => exact (ih (position + 1)).bind fun others _ => steady_pure _
  refine (hfrom 1 arguments).bind fun found _ => ?_
  cases commonLength (found.map List.length) with
  | ok n => exact steady_pure _
  | error fault => exact steady_throw _

/-! ## Shape -/

theorem IsColumn.unique {a : Value} (h : IsColumn a m) (h' : IsColumn a n) : m = n :=
  h.2.symm.trans h'.2

/-- Arguments have one length only. -/
theorem HasLength.unique (h : HasLength arguments m) (h' : HasLength arguments n) : m = n := by
  obtain ⟨a, ha⟩ := List.exists_mem_of_ne_nil arguments h.1
  exact (h.2 a ha).unique (h'.2 a ha)

theorem HasLength.not_misshapen (h : HasLength arguments n) : ¬ Misshapen arguments := by
  rintro (hnone | ⟨a, ha, hnone⟩ | ⟨a, ha, b, hb, k, l, hk, hl, hne⟩)
  · exact h.1 hnone
  · cases (h.2 a ha).1.unique hnone
  · exact hne ((hk.unique (h.2 a ha)).trans ((h.2 b hb).unique hl))

/-- Misshapen arguments are refused; the columns of any others are their items. -/
theorem columns_cases (hasked : CanBeAsked arguments) :
    (Misshapen arguments ∧ ∃ fault, AlwaysFails (Batch.columns arguments) (.batchShape fault)) ∨
      ∃ n, HasLength arguments n := by
  rcases (steady_columns arguments).cases with ⟨⟨n, found⟩, hgives⟩ | ⟨failure, hfails⟩
  · exact .inr ⟨n, (hasLength_of_columns hgives.mayGive).1⟩
  · have hmay : MayFail (Batch.columns arguments) failure :=
      ⟨fun _ => 0, _, Prod.ext (hfails _) rfl⟩
    rcases of_mayFail_columns hmay with ⟨fault, rfl, hmisshapen⟩ | ⟨a, ha, hcolumn⟩
    · exact .inl ⟨hmisshapen, fault, hfails⟩
    · exact absurd hcolumn (hasked a ha failure)

theorem exists_hasLength (hasked : CanBeAsked arguments) (h : ¬ Misshapen arguments) :
    ∃ n, HasLength arguments n := by
  rcases columns_cases hasked with ⟨hmisshapen, -⟩ | hlength
  · exact absurd hmisshapen h
  · exact hlength

/-! ## Rows -/

/-- The rows of some columns are their items at the places in order. -/
theorem rows_eq_map {α : Type} (n : Nat) (columns : List (List α)) :
    rows n columns = (List.range n).map fun i => columns.filterMap (·[i]?) := by
  induction n generalizing columns with
  | zero => rfl
  | succ n ih =>
    have hfirst : columns.filterMap List.head? = columns.filterMap (·[0]?) :=
      congrArg (columns.filterMap ·) (funext fun _ => List.head?_eq_getElem?)
    have hrest : ∀ i, (columns.map List.tail).filterMap (·[i]?) =
        columns.filterMap (·[i + 1]?) := by
      intro i
      simp only [List.filterMap_map, Function.comp_def, List.getElem?_tail]
    rw [rows, ih, List.range_succ_eq_map, List.map_cons, List.map_map, hfirst]
    simp only [hrest, Function.comp_def]

theorem readRow_map_pure (row : List Value) : readRow (row.map pure) = pure row := by
  induction row with
  | nil => rfl
  | cons v rest ih =>
    rw [List.map_cons, readRow, ih]
    rfl

/-- The items of lists and tuples at a place. -/
theorem readRow_rowAt_of_sequences {columns : List (List Value)}
    (h : arguments.map Value.sequence? = columns.map some) (i : Nat) :
    readRow (rowAt arguments i) = pure (columns.filterMap (·[i]?)) := by
  have hitems : itemsOf arguments = columns.map (·.map pure) := by
    induction arguments generalizing columns with
    | nil =>
      cases columns with
      | nil => rfl
      | cons column rest => cases h
    | cons a rest ih =>
      cases columns with
      | nil => cases h
      | cons column columns =>
        obtain ⟨hfirst, hrest⟩ := List.cons.inj h
        rw [itemsOf, List.map_cons, (columnOf_of_sequence hfirst).1, List.map_cons, ← ih hrest]
        rfl
  rw [← readRow_map_pure, rowAt, hitems, List.filterMap_map, List.map_filterMap]
  simp only [Function.comp_def, List.getElem?_map]

theorem rows_itemsOf (n : Nat) (arguments : List Value) :
    rows n (itemsOf arguments) = (List.range n).map (rowAt arguments) :=
  rows_eq_map n (itemsOf arguments)

end Batch
end BoundUpdate
