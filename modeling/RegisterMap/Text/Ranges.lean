/-!
# Ranges of code points

Character classes are kept as lists of inclusive ranges of code points in ascending order.
-/

namespace RegisterMap.Text

abbrev Ranges := List (Nat × Nat)

namespace Ranges

def has (rs : Ranges) (n : Nat) : Bool :=
  rs.any fun r => r.1 ≤ n && n ≤ r.2

theorem has_iff {rs : Ranges} {n : Nat} :
    rs.has n = true ↔ ∃ r ∈ rs, r.1 ≤ n ∧ n ≤ r.2 := by
  simp [has, List.any_eq_true]

end Ranges

end RegisterMap.Text
