namespace BoundUpdate
namespace Text

/-!
# Sets of code points as ranges

A character class of the Unicode standard is given as a list of closed code
point ranges in increasing order.  Membership walks the list and stops at the
first range that lies above the code point, so characters with small codes are
decided after few comparisons.
-/

/-- Closed code point ranges, in increasing order. -/
abbrev CodeRanges := List (Nat × Nat)

/-- A code point belongs to the class when one range covers it. -/
def CodeRanges.covers : CodeRanges → Nat → Bool
  | [], _ => false
  | (first, last) :: rest, code =>
    if code < first then false
    else if code ≤ last then true
    else CodeRanges.covers rest code

@[simp]
theorem CodeRanges.covers_nil (code : Nat) : CodeRanges.covers [] code = false := rfl

end Text
end BoundUpdate
