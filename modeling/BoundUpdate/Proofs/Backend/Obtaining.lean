import BoundUpdate.Proofs.Activity.Outcomes
import BoundUpdate.Proofs.Backend.Lending
import BoundUpdate.Proofs.Json.Values

namespace BoundUpdate

/-!
# Obtaining a connection

What the driver does on the way to a connection, short of an interruption, is
reported as a failure to connect: it keeps the failure that it was made from and
tells what was tried.  Loading the driver comes before that way begins, so a
driver that cannot be loaded fails with a failure of its own.
-/

/-- Whether an entry has a text as its type, values of JSON texts as its parts, and no options or a
dictionary of them. -/
structure DatabaseEntry.IsDeclared (e : DatabaseEntry) (type : String) : Prop where
  type : e.type = .text type
  parts : ∀ v ∈ [e.dsn, e.host, e.user, e.password, e.port, e.database], Json.IsValue v
  options : e.options = .none ∨ ∃ entries, e.options = .dict entries

namespace Connector

open Act

variable {c c' : Connector} {e : DatabaseEntry} {opens connection : Connection}
  {type driver : String} {before after : Activity} {failure : Failure}

/-! ## What is reported -/

/-- What a connector for a declared entry holds: it can be made ready for every such entry. -/
structure IsFor (c : Connector) (e : DatabaseEntry) (opens : Connection) (type : String) :
    Prop where
  entry : c.entry = e
  opens : c.opens = opens
  type : c.type = .text (Text.lowerString type)
  options : ∃ entries, c.options = .dict entries

/-- Every part that is asked for on the way to a connection is a value of a JSON text. -/
theorem IsFor.isValue (hc : c.IsFor e opens type) (h : e.IsDeclared type) {v : Value}
    (hv : v ∈ [c.entry.dsn, c.entry.port, c.entry.database]) : Json.IsValue v := by
  rw [hc.entry] at hv
  refine h.parts v ?_
  simp only [List.mem_cons, List.not_mem_nil, or_false] at hv ⊢
  rcases hv with rfl | rfl | rfl <;> simp

/-- A connection text can be made of the parts. -/
theorem IsFor.exists_partsText (hc : c.IsFor e opens type) (h : e.IsDeclared type) :
    ∃ text, c.partsText = .ok text := by
  obtain ⟨entries, hoptions⟩ := hc.options
  have hport : Json.IsValue c.entry.port := hc.isValue h (by simp)
  unfold partsText option
  rw [hoptions]
  dsimp only [Value.entries?]
  rw [hport.orElse]
  exact ⟨_, rfl⟩

end Connector
end BoundUpdate
