/-!
# Sets of code points

A property of characters is a list of closed ranges of code points.  Membership is a scan, which a proof can follow
range by range.
-/
namespace VersionTags.Text

/-- Closed ranges of code points. -/
abbrev Ranges := List (Nat × Nat)

def Ranges.has (rs : Ranges) (n : Nat) : Bool :=
  rs.any fun r => decide (r.1 ≤ n) && decide (n ≤ r.2)

theorem Ranges.has_iff {rs : Ranges} {n : Nat} : rs.has n = true ↔ ∃ r ∈ rs, r.1 ≤ n ∧ n ≤ r.2 := by
  simp [Ranges.has]

end VersionTags.Text
