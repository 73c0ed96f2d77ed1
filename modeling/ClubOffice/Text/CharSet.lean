/-!
# Sets of characters given by ranges of code points

A property that a standard lists by ranges is a list of closed intervals of code points, and a
character has the property when one of them covers it.
-/

namespace ClubOffice.Text

/-- Closed intervals of code points, in ascending order. -/
abbrev CharSet := List (Nat × Nat)

/-- Whether one of the intervals covers the character. -/
def CharSet.covers (set : CharSet) (c : Char) : Bool :=
  set.any fun interval => interval.1 ≤ c.toNat && c.toNat ≤ interval.2

theorem CharSet.covers_iff (set : CharSet) (c : Char) :
    set.covers c = true ↔ ∃ interval ∈ set, interval.1 ≤ c.toNat ∧ c.toNat ≤ interval.2 := by
  simp [covers]

end ClubOffice.Text
