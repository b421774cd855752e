/-!
# Sets of characters

- `CharRun`: an arithmetic progression of code points.
- `CharSet`: a union of runs; `CharSet.contains` is membership.
-/

namespace RecordSql.Text

/-- The code points `first`, `first + step`, … up to `last`. -/
structure CharRun where
  first : Nat
  last : Nat
  step : Nat

/-- Whether a code point lies on the progression. -/
def CharRun.contains (r : CharRun) (n : Nat) : Bool :=
  r.first ≤ n && n ≤ r.last && (n - r.first) % r.step == 0

/-- A union of runs, in ascending order. -/
abbrev CharSet := List CharRun

/-- Whether a character belongs to one of the runs. -/
def CharSet.contains (s : CharSet) (c : Char) : Bool :=
  s.any (·.contains c.toNat)

end RecordSql.Text
