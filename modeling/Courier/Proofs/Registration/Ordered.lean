import Courier.Proofs.Registration.Filed
import Mathlib.Data.List.Basic

/-!
# The registration of a client

What is kept of a client is `registration?`, and every step about a client changes it for no other.
A user's registrations stand in the order of their platforms, one a platform, so they are known by
what is kept of the user's clients.
-/

namespace Courier

/-- The client that a registration is for. -/
def Registration.client (r : Registration) : Client :=
  ⟨r.user, r.platform⟩

namespace RegistrationStore

/-- The registration of a client. -/
def registration? (s : RegistrationStore) (c : Client) : Option Registration :=
  (s.ofUser c.user).find? fun r => r.platform = c.platform

variable {s : RegistrationStore} {c d : Client} {r : Registration} {user : String}

theorem find?_place (r : Registration) (l : List Registration) (p : Int32) :
    (r.place l).find? (fun x => x.platform = p) =
      if r.platform = p then some r else l.find? fun x => x.platform = p := by
  induction l with
  | nil => by_cases h : r.platform = p <;> simp [Registration.place, h]
  | cons x rest ih =>
      rw [Registration.place]
      split
      · by_cases h : r.platform = p <;> simp [List.find?_cons, h]
      · split
        · rename_i hx
          by_cases h : r.platform = p
          · simp [h]
          · have : x.platform ≠ p := hx ▸ h
            simp [h, this]
        · rename_i hx
          by_cases h : r.platform = p
          · have : x.platform ≠ p := fun hp => hx (h.trans hp.symm)
            simp [this, ih, h]
          · by_cases hp : x.platform = p <;> simp [hp, ih, h]

/-! ### What a step does to a client -/

@[simp] theorem registration?_empty : (∅ : RegistrationStore).registration? c = none := rfl

theorem registration?_register (s : RegistrationStore) (r : Registration) (c : Client) :
    (s.register r).registration? c = if r.client = c then some r else s.registration? c := by
  obtain ⟨user, platform⟩ := c
  rw [registration?, registration?, ofUser_register]
  by_cases hu : user = r.user
  · simp [hu, find?_place, Registration.client]
  · simp [hu, Registration.client, Ne.symm hu]

theorem registration?_strike (s : RegistrationStore) (d c : Client) :
    (s.strike d).registration? c = if d = c then none else s.registration? c := by
  obtain ⟨user, platform⟩ := c
  obtain ⟨other, p⟩ := d
  rw [registration?, registration?, ofUser_strike]
  by_cases hu : user = other
  · subst hu
    rw [if_pos rfl, List.find?_filter]
    by_cases hp : p = platform
    · simp [hp]
    · rw [if_neg (by simp [hp])]
      congr 1
      funext r
      by_cases hr : r.platform = platform
      · simp [hr, Ne.symm hp]
      · simp [hr]
  · simp [hu, Ne.symm hu]

@[simp] theorem registration?_tidy (s : RegistrationStore) (user : String) (c : Client) :
    (s.tidy user).registration? c = s.registration? c := by
  rw [registration?, registration?, ofUser_tidy]

theorem contains_eq (s : RegistrationStore) (c : Client) :
    s.contains c = (s.registration? c).isSome := by
  rw [contains, registration?, List.isSome_find?]

theorem IsFiled.client_eq (h : s.IsFiled) (hr : s.registration? c = some r) : r.client = c := by
  have hu : r.user = c.user := h c.user r (List.mem_of_find?_eq_some hr)
  have hp : r.platform = c.platform := by simpa using List.find?_some hr
  rw [Registration.client, hu, hp]

/-! ### The order of a user's registrations -/

/-- Whether each user's registrations stand in the order of their platforms. -/
def IsOrdered (s : RegistrationStore) : Prop :=
  ∀ user, (s.ofUser user).Pairwise fun a b => a.platform < b.platform

theorem pairwise_place (r : Registration) {l : List Registration}
    (h : l.Pairwise fun a b => a.platform < b.platform) :
    (r.place l).Pairwise fun a b => a.platform < b.platform := by
  induction l with
  | nil => exact List.pairwise_singleton _ _
  | cons x rest ih =>
      have hx : ∀ y ∈ rest, x.platform < y.platform := fun y hy => List.rel_of_pairwise_cons h hy
      rw [Registration.place]
      split
      · rename_i hr
        exact h.cons (List.forall_mem_cons.2 ⟨hr, fun y hy => Int32.lt_trans hr (hx y hy)⟩)
      · split
        · rename_i hr
          exact h.of_cons.cons fun y hy => hr ▸ hx y hy
        · rename_i hn hr
          refine (ih h.of_cons).cons fun y hy => ?_
          rcases mem_place hy with rfl | hy
          · exact Int32.lt_of_le_of_ne (Int32.not_lt.1 hn) (Ne.symm hr)
          · exact hx y hy

/-- In a row in the order of platforms a registration is found by its platform. -/
theorem find?_of_mem {l : List Registration} (h : l.Pairwise fun a b => a.platform < b.platform)
    (hr : r ∈ l) : l.find? (fun x => x.platform = r.platform) = some r := by
  induction l with
  | nil => cases hr
  | cons x rest ih =>
      rcases List.mem_cons.1 hr with rfl | hr
      · simp
      · have hx : x.platform ≠ r.platform := Int32.ne_of_lt (List.rel_of_pairwise_cons h hr)
        rw [List.find?_cons_of_neg (by simpa using hx)]
        exact ih h.of_cons hr

namespace IsOrdered

theorem empty : IsOrdered ∅ :=
  fun _ => .nil

theorem operate (h : s.IsOrdered) (o : Operation) : (s.operate o).IsOrdered := by
  intro user
  cases o with
  | register r =>
      change ((s.register r).ofUser user).Pairwise _
      rw [ofUser_register]
      split
      · exact pairwise_place r (h user)
      · exact h user
  | strike c =>
      change ((s.strike c).ofUser user).Pairwise _
      rw [ofUser_strike]
      split
      · exact (h user).filter _
      · exact h user
  | tidy other =>
      change ((s.tidy other).ofUser user).Pairwise _
      rw [ofUser_tidy]
      exact h user

/-- A user's registrations are those that are kept of the user's clients. -/
theorem mem_ofUser_iff (h : s.IsOrdered) (hf : s.IsFiled) :
    r ∈ s.ofUser user ↔ r.user = user ∧ s.registration? r.client = some r := by
  constructor
  · intro hr
    obtain rfl := hf user r hr
    exact ⟨rfl, find?_of_mem (h r.user) hr⟩
  · rintro ⟨rfl, hr⟩
    exact List.mem_of_find?_eq_some hr

end IsOrdered

end RegistrationStore

end Courier
