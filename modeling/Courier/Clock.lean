/-!
# The clock

Points in time are whole seconds since 1970. They are kept in signed words of 64 bits, and so is a
span of time that is given without a sign: the greatest spans count as negative ones, and a sum
that leaves the word comes back at its other end.
-/

namespace Courier.Clock

/-- The number that a signed word of 64 bits holds for an integer. -/
def word (n : Int) : Int :=
  n.bmod 18446744073709551616

/-- The point in time that lies a span after another. -/
def after (now : Int) (span : UInt64) : Int :=
  word (now + span.toNat)

theorem word_eq {n : Int} (least : -9223372036854775808 ≤ n)
    (most : n < 9223372036854775808) : word n = n := by
  unfold word
  rw [Int.bmod_def]
  omega

theorem after_eq {now : Int} {span : UInt64} (least : -9223372036854775808 ≤ now)
    (most : now + span.toNat < 9223372036854775808) : after now span = now + span.toNat :=
  word_eq (by omega) most

end Courier.Clock
