import Mathlib.Data.List.Nodup

namespace BoundUpdate

/-!
# Lists of pairs

A key is looked up from the front of a list.  What is found stands in the list;
where no key stands twice, whatever stands there is found.
-/

section Pairs

variable {α β : Type} [BEq α] [LawfulBEq α] {pairs : List (α × β)} {k : α} {v : β}

theorem mem_of_lookup (h : pairs.lookup k = some v) : (k, v) ∈ pairs := by
  obtain ⟨before, after, rfl, -⟩ := List.lookup_eq_some_iff.1 h
  exact List.mem_append_right _ List.mem_cons_self

theorem lookup_eq_some_iff_mem (hnodup : (pairs.map Prod.fst).Nodup) :
    pairs.lookup k = some v ↔ (k, v) ∈ pairs := by
  refine ⟨mem_of_lookup, fun hmem => ?_⟩
  obtain ⟨before, after, rfl⟩ := List.append_of_mem hmem
  refine List.lookup_eq_some_iff.2 ⟨before, after, rfl, fun p hp => bne_iff_ne.2 fun heq => ?_⟩
  rw [List.map_append, List.nodup_append] at hnodup
  exact hnodup.2.2 _ (List.mem_map_of_mem hp) _ (List.mem_map_of_mem List.mem_cons_self) heq.symm

end Pairs

end BoundUpdate
