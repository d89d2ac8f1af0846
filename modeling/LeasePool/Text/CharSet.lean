/-!
Sets of characters given by the closed ranges of their code points, the form in which character
properties are tabulated.
-/
namespace LeasePool.Text

/-- A set of characters, as closed ranges of code points. -/
structure CharSet where
  ranges : List (Nat × Nat)

namespace CharSet

def contains (s : CharSet) (c : Char) : Bool :=
  s.ranges.any fun r => decide (r.1 ≤ c.toNat) && decide (c.toNat ≤ r.2)

theorem contains_iff (s : CharSet) (c : Char) :
    s.contains c = true ↔ ∃ r ∈ s.ranges, r.1 ≤ c.toNat ∧ c.toNat ≤ r.2 := by
  simp [contains]

end CharSet

end LeasePool.Text
