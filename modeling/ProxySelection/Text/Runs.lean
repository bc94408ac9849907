import ProxySelection.Text.Basic

/-!
Sets of characters as runs of code points, each given by its first and its last one.
-/

namespace ProxySelection

/-- First and last code point of each run of a set of characters. -/
abbrev CodeRuns := List (Nat × Nat)

/-- Whether a character is in one of the runs. -/
def CodeRuns.holds (runs : CodeRuns) (c : CodePoint) : Bool :=
  runs.any fun r => r.1 ≤ c.toNat && c.toNat ≤ r.2

end ProxySelection
