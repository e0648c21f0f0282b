/-!
# Sets of code points

A set of code points is a list of intervals, or of spans where every second point of an interval is
meant, which is how letters that alternate between the cases lie.  A `Shift` is a span with the
distance to the other case.
-/

namespace EntitySql

/-- The points `first`, `first + step`, … up to `last`. -/
structure Span where
  first : Nat
  last : Nat
  step : Nat
deriving DecidableEq, Repr

/-- Whether a point is in the span. -/
def Span.has (s : Span) (n : Nat) : Bool :=
  s.first ≤ n && n ≤ s.last && (n - s.first) % s.step == 0

/-- A span of points that are all moved by the same distance. -/
structure Shift where
  first : Nat
  last : Nat
  step : Nat
  distance : Int
deriving DecidableEq, Repr

/-- Whether a point is moved. -/
def Shift.has (s : Shift) (n : Nat) : Bool := Span.has ⟨s.first, s.last, s.step⟩ n

/-- Where the first shift that has the point moves it. -/
def Shift.find? (table : List Shift) (n : Nat) : Option Nat :=
  (table.find? (·.has n)).map fun s => ((n : Int) + s.distance).toNat

/-- Whether a point is in one of the closed intervals. -/
def inIntervals (table : List (Nat × Nat)) (n : Nat) : Bool :=
  table.any fun i => i.1 ≤ n && n ≤ i.2

end EntitySql
