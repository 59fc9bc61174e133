/-!
# Capacities

Whatever capacity is asked for, there is room for one.
-/

namespace Courier.Capacity

/-- A capacity that is asked for, but at least one. -/
def atLeastOne (n : Nat) : Nat :=
  max n 1

theorem atLeastOne_pos (n : Nat) : 0 < atLeastOne n :=
  Nat.le_max_right n 1

end Courier.Capacity
