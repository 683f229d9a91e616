/-!
# Sets of code points by their boundaries

A set of code points is given by the increasing list of points at which membership changes, starting
outside. A point belongs to the set when an odd number of boundaries are at or below it.
-/

namespace Stencil.Text

/-- Whether an odd number of boundaries are at or below `n`. -/
def Boundaries.contains (boundaries : Array Nat) (n : Nat) : Bool :=
  boundaries.foldl (fun inside b => if b ≤ n then !inside else inside) false

end Stencil.Text
