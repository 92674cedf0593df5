/-!
# Sets of code points

The characters that have a property, given as the runs of code points that they
fill.
-/

namespace Reckoner

/-- A set of code points: the first and the last one of each run, in increasing
order. -/
abbrev CodePoints := Array (Nat × Nat)

/-- Whether a character belongs to a set.  As the runs are in order, it belongs
to the first run that does not end before it, or to none. -/
def CodePoints.contains (runs : CodePoints) (c : Char) : Bool :=
  match runs.find? fun run => c.toNat ≤ run.2 with
  | some run => run.1 ≤ c.toNat
  | none => false

end Reckoner
