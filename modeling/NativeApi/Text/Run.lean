/-!
# Evenly spaced runs of code points

A table of characters is a list of runs.  `Run.covers` says which code points a run has,
and a `Shift` moves a run of code points to another place, keeping their distances.
-/

namespace NativeApi.Text

/-- The code points `first`, `first + step`, and so on up to `last`. -/
structure Run where
  first : Nat
  last : Nat
  step : Nat

/-- Whether a code point is one of the run. -/
def Run.covers (r : Run) (n : Nat) : Bool :=
  decide (r.first ≤ n) && decide (n ≤ r.last) && (n - r.first) % r.step == 0

/-- Whether a code point is in one of the runs of a table. -/
def inRuns (table : List Run) (n : Nat) : Bool := table.any (·.covers n)

/-- A run of code points and the place where its first one goes. -/
structure Shift extends Run where
  target : Nat

/-- The place of a code point under the first shift of a table that covers it. -/
def shift? (table : List Shift) (n : Nat) : Option Nat :=
  (table.find? (·.covers n)).map fun s => s.target + (n - s.first)

end NativeApi.Text
