import Courier.Keyspace.Keys
import Courier.Text.Cut
import Mathlib

/-!
# Keys tell their clients

A user's name may hold anything, colons and digits too, but a platform's number holds no colon. What
stands behind the last colon of a key of tokens is therefore the platform, and what stands before it
the user. In a key of a registration the platform stands before the first colon behind the mark, and
no key is of both kinds.
-/

namespace Courier.Keyspace

theorem colon_notMem_toString (n : Int) : ':' ∉ (toString n).toList := by
  have digits : ∀ m : Nat, ':' ∉ m.repr.toList := by
    intro m hm
    rw [Nat.repr, String.toList_ofList] at hm
    have hd := Nat.isDigit_of_mem_toDigits (by decide) (by decide) hm
    exact absurd hd (by decide)
  cases n with
  | ofNat m => exact digits m
  | negSucc m =>
      change ':' ∉ ("-" ++ m.succ.repr).toList
      rw [String.toList_append, List.mem_append]
      rintro (hm | hm)
      · exact absurd hm (by decide)
      · exact digits _ hm

private theorem toList_colon : ":".toList = [':'] := by
  simp

/-- A client is known by its user and the number of its platform. -/
theorem eq_of_number {c d : Client} (number : c.platform.toInt = d.platform.toInt)
    (user : c.user = d.user) : c = d := by
  have platform : c.platform = d.platform := Int32.toInt_inj.1 number
  cases c
  cases d
  cases user
  cases platform
  rfl

/-- The key of a client's tokens, cut at its last colon. -/
theorem last?_tokenKey (c : Client) :
    Cut.last? ':' (tokenKey c).toList =
      some ("UID_PID_TOKEN_STATUS:".toList ++ c.user.toList,
        (toString c.platform.toInt).toList) := by
  have hk : (tokenKey c).toList = ("UID_PID_TOKEN_STATUS:".toList ++ c.user.toList) ++
      ':' :: (toString c.platform.toInt).toList := by
    unfold tokenKey
    simp only [String.toList_append, toList_colon, List.append_assoc, List.singleton_append]
  exact Cut.last?_eq_some_iff.2 ⟨hk, colon_notMem_toString _⟩

/-- Clients with the same key are the same. -/
theorem tokenKey_injective {c d : Client} (h : tokenKey c = tokenKey d) : c = d := by
  have hc := last?_tokenKey c
  rw [h, last?_tokenKey d] at hc
  obtain ⟨hu, hp⟩ := Prod.mk.inj (Option.some.inj hc)
  exact eq_of_number (Int.repr_injective (String.toList_injective hp)).symm
    (String.toList_injective (List.append_cancel_left hu)).symm

/-- The key of a client's registration behind its mark, cut at its first colon. -/
theorem first?_registrationKey (c : Client) :
    ∃ rest, (registrationKey c).toList = "PUSH_TOKEN:".toList ++ rest ∧
      Cut.first? ':' rest = some ((toString c.platform.toInt).toList, c.user.toList) := by
  refine ⟨(toString c.platform.toInt).toList ++ ':' :: c.user.toList, ?_,
    Cut.first?_eq_some_iff.2 ⟨rfl, colon_notMem_toString _⟩⟩
  unfold registrationKey
  simp only [String.toList_append, toList_colon, List.append_assoc, List.singleton_append]

/-- Clients with the same key of a registration are the same. -/
theorem registrationKey_injective {c d : Client} (h : registrationKey c = registrationKey d) :
    c = d := by
  obtain ⟨rest, hc, cutc⟩ := first?_registrationKey c
  obtain ⟨rest', hd, cutd⟩ := first?_registrationKey d
  have same : rest = rest' := List.append_cancel_left (hc.symm.trans (h ▸ hd))
  rw [same, cutd] at cutc
  obtain ⟨hp, hu⟩ := Prod.mk.inj (Option.some.inj cutc)
  exact eq_of_number (Int.repr_injective (String.toList_injective hp)).symm
    (String.toList_injective hu).symm

private theorem append_ne_append {p q a b : String} {x y : Char} (hp : p.toList.head? = some x)
    (hq : q.toList.head? = some y) (h : x ≠ y) : p ++ a ≠ q ++ b := by
  intro e
  have heads := congrArg (fun s => s.toList.head?) e
  simp only [String.toList_append, List.head?_append, hp, hq, Option.some_or,
    Option.some.injEq] at heads
  exact h heads

/-- No key of tokens is one of a registration, since the two begin differently. -/
theorem tokenKey_ne_registrationKey (c d : Client) : tokenKey c ≠ registrationKey d := by
  unfold tokenKey registrationKey
  simp only [String.append_assoc]
  have hc : "UID_PID_TOKEN_STATUS:".toList.head? = some 'U' := by simp
  have hd : "PUSH_TOKEN:".toList.head? = some 'P' := by simp
  exact append_ne_append hc hd (by simp)

end Courier.Keyspace
