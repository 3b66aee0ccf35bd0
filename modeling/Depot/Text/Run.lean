/-!
# Runs of numbers

A set of characters is written down as the runs of their numbers, each with its first and its last one.
-/

namespace Depot

/-- The number is in one of the runs. -/
def inRuns (runs : List (Nat × Nat)) (n : Nat) : Bool := runs.any fun run => run.1 ≤ n ∧ n ≤ run.2

end Depot
