/-! Sets of characters given by ranges of code points, in ascending order. -/

namespace TapeMachine.Text

/-- Inclusive ranges of code points. -/
abbrev Ranges := List (Nat × Nat)

/-- Membership in a set given by ranges. -/
def Ranges.contains (ranges : Ranges) (c : Char) : Bool :=
  ranges.any (fun range => range.1 ≤ c.toNat && c.toNat ≤ range.2)

end TapeMachine.Text
