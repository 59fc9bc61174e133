import Courier.ServiceError

/-!
# The shared secret

Callers from inside show that they know a secret shared with the service. A service without a
configured secret lets nobody in.
-/

namespace Courier.Gate

/-- Compares the secret that a caller gives with the configured one. -/
def checkSecret : Option String → Option String → Except ServiceError Unit
  | none, _ => .error (.noPermission "server secret is not configured")
  | some expected, given =>
    if given = some expected then .ok () else .error (.noPermission "invalid secret")

theorem checkSecret_eq_ok_iff {expected given : Option String} :
    checkSecret expected given = .ok () ↔ ∃ s, expected = some s ∧ given = some s := by
  cases expected with
  | none => simp [checkSecret]
  | some s => by_cases h : given = some s <;> simp [checkSecret, h]

end Courier.Gate
