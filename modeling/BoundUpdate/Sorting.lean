namespace BoundUpdate
namespace Sorting

/-!
# Sorting with an order that may refuse

Items are sorted by asking which of two comes first, and an answer may be
refused.  The items that stand in order at the start are found first, and each
of the others is put behind all that do not come after it, at a place that is
found by halving.  So it is decided which items are compared, and which refusal
is the first one.
-/

variable {α ε : Type} (less : α → α → Except ε Bool)

/-- The items that go on, from the last one in front of them, always down or never down, and the
items behind. -/
def runFrom (isDescending : Bool) (last : α) : List α → Except ε (List α × List α)
  | [] => .ok ([], [])
  | x :: rest => do
    if (← less x last) == isDescending then
      let (run, after) ← runFrom isDescending x rest
      return (x :: run, after)
    else return ([], x :: rest)

/-- The items at the start that stand in order or in the opposite one, put in order, and the items
behind. -/
def firstRun : List α → Except ε (List α × List α)
  | x :: y :: rest => do
    let isDescending ← less y x
    let (run, after) ← runFrom less isDescending y rest
    let run := x :: y :: run
    return (if isDescending then run.reverse else run, after)
  | items => .ok (items, [])

/-- Where an item belongs among sorted ones, of which the first `low` do not come after it and those
from `high` on do. -/
def placeOf (x : α) (done : Array α) (low high : Nat) : Except ε Nat :=
  if _h : low < high then
    let middle := (low + high) / 2
    match done[middle]? with
    | none => .ok low
    | some y => do
      if ← less x y then placeOf x done low middle else placeOf x done (middle + 1) high
  else .ok low
termination_by high - low

/-- Sorted items with another one. -/
def insert (done : List α) (x : α) : Except ε (List α) := do
  let place ← placeOf less x done.toArray 0 done.length
  return done.take place ++ x :: done.drop place

/-- Items in order; those of which none comes first keep their order. -/
def sorted (items : List α) : Except ε (List α) := do
  let (run, rest) ← firstRun less items
  rest.foldlM (insert less) run

/-! ## Nothing is lost -/

theorem append_of_runFrom {isDescending : Bool} {last : α} {items run after : List α}
    (h : runFrom less isDescending last items = .ok (run, after)) : run ++ after = items := by
  induction items generalizing last run with
  | nil =>
    obtain ⟨rfl, rfl⟩ : [] = run ∧ [] = after := by simpa [runFrom] using h
    rfl
  | cons x rest ih =>
    rw [runFrom] at h
    cases hl : less x last with
    | error e => simp [hl, bind, Except.bind] at h
    | ok b =>
      by_cases hb : b = isDescending
      · cases hr : runFrom less isDescending x rest with
        | error e => simp [hl, hb, hr, bind, Except.bind] at h
        | ok found =>
          obtain ⟨rfl, rfl⟩ : x :: found.1 = run ∧ found.2 = after := by
            simpa [hl, hb, hr, bind, Except.bind, pure, Except.pure] using h
          simp [ih hr]
      · obtain ⟨rfl, rfl⟩ : [] = run ∧ x :: rest = after := by
          simpa [hl, hb, bind, Except.bind, pure, Except.pure] using h
        rfl

theorem perm_of_firstRun {items run after : List α}
    (h : firstRun less items = .ok (run, after)) : (run ++ after).Perm items := by
  match items, h with
  | [], h =>
    obtain ⟨rfl, rfl⟩ : [] = run ∧ [] = after := by simpa [firstRun] using h
    exact .refl _
  | [x], h =>
    obtain ⟨rfl, rfl⟩ : [x] = run ∧ [] = after := by simpa [firstRun] using h
    exact .refl _
  | x :: y :: rest, h =>
    rw [firstRun] at h
    cases hl : less y x with
    | error e => simp [hl, bind, Except.bind] at h
    | ok b =>
      cases hr : runFrom less b y rest with
      | error e => simp [hl, hr, bind, Except.bind] at h
      | ok found =>
        have hf : found.1 ++ found.2 = rest := append_of_runFrom less hr
        obtain ⟨hrun, rfl⟩ : (if b then (x :: y :: found.1).reverse else x :: y :: found.1) = run ∧
            found.2 = after := by
          simpa [hl, hr, bind, Except.bind, pure, Except.pure] using h
        have hp : run.Perm (x :: y :: found.1) := by
          rw [← hrun]
          cases b with
          | true => exact List.reverse_perm _
          | false => exact .refl _
        have := hp.append_right found.2
        rwa [List.cons_append, List.cons_append, hf] at this

theorem perm_of_insert {done more : List α} {x : α} (h : insert less done x = .ok more) :
    more.Perm (x :: done) := by
  rw [insert] at h
  cases hp : placeOf less x done.toArray 0 done.length with
  | error e => simp [hp, bind, Except.bind] at h
  | ok place =>
    obtain rfl : done.take place ++ x :: done.drop place = more := by
      simpa [hp, bind, Except.bind, pure, Except.pure] using h
    have := @List.perm_middle _ x (done.take place) (done.drop place)
    rwa [List.take_append_drop] at this

theorem perm_of_foldlM {rest done more : List α}
    (h : rest.foldlM (insert less) done = .ok more) : more.Perm (done ++ rest) := by
  induction rest generalizing done with
  | nil =>
    obtain rfl : done = more := by simpa [pure, Except.pure] using h
    simp
  | cons x rest ih =>
    rw [List.foldlM_cons] at h
    cases hi : insert less done x with
    | error e => simp [hi, bind, Except.bind] at h
    | ok next =>
      have hn : more.Perm (next ++ rest) := ih (by simpa [hi, bind, Except.bind] using h)
      have hx : (next ++ rest).Perm (x :: done ++ rest) :=
        (perm_of_insert less hi).append_right rest
      exact (hn.trans hx).trans List.perm_middle.symm

/-- Sorting neither drops nor repeats an item. -/
theorem perm_of_sorted {items done : List α} (h : sorted less items = .ok done) :
    done.Perm items := by
  rw [sorted] at h
  cases hr : firstRun less items with
  | error e => simp [hr, bind, Except.bind] at h
  | ok found =>
    have hd : done.Perm (found.1 ++ found.2) :=
      perm_of_foldlM less (by simpa [hr, bind, Except.bind] using h)
    exact hd.trans (perm_of_firstRun less hr)

end Sorting
end BoundUpdate
