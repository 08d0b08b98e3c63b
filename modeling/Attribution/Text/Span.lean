/-!
Sets of code points as lists of runs, and the test whether a character lies in one.
-/

namespace Attribution.Text

/-- A run of code points, both ends included. -/
abbrev Span := Nat × Nat

/-- A run of code points in equal steps, both ends included. -/
structure Run where
  first : Nat
  last : Nat
  step : Nat

/-- Whether a character lies in one of the spans. -/
def inSpans (spans : List Span) (c : Char) : Bool :=
  spans.any fun s => s.1 ≤ c.toNat && c.toNat ≤ s.2

/-- Whether a code point belongs to a run. -/
def Run.contains (run : Run) (n : Nat) : Bool :=
  run.first ≤ n && n ≤ run.last && (n - run.first) % run.step == 0

end Attribution.Text
