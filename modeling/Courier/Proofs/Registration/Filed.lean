import Courier.Proofs.Table
import Courier.Registration.Store

/-!
# Registrations belong to their users

Whatever is done with the registrations, in whatever order, those on the list of a user are the
user's own.
-/

namespace Courier.RegistrationStore

/-- What can be done with the registrations. The two steps of taking one out may have others between
them. -/
inductive Operation where
  | register (r : Registration)
  | strike (c : Client)
  | tidy (user : String)

/-- Carries out an operation. -/
def operate (s : RegistrationStore) : Operation → RegistrationStore
  | .register r => s.register r
  | .strike c => s.strike c
  | .tidy user => s.tidy user

/-- Carries out operations in order. -/
def operateAll (s : RegistrationStore) (operations : List Operation) : RegistrationStore :=
  operations.foldl operate s

/-- Whether each registration is on the list of its own user. -/
def IsFiled (s : RegistrationStore) : Prop :=
  ∀ user, ∀ r ∈ s.ofUser user, r.user = user

variable {s : RegistrationStore}

theorem mem_place {r x : Registration} {l : List Registration} (h : x ∈ r.place l) :
    x = r ∨ x ∈ l := by
  induction l with
  | nil => exact .inl (List.mem_singleton.1 h)
  | cons y rest ih =>
      rw [Registration.place] at h
      split at h
      · exact List.mem_cons.1 h
      · split at h
        · exact (List.mem_cons.1 h).imp_right (List.mem_cons_of_mem y)
        · rcases List.mem_cons.1 h with rfl | h
          · exact .inr List.mem_cons_self
          · exact (ih h).imp_right (List.mem_cons_of_mem y)

theorem ofUser_strike (s : RegistrationStore) (c : Client) (user : String) :
    (s.strike c).ofUser user =
      if user = c.user then (s.ofUser user).filter fun r => r.platform ≠ c.platform
      else s.ofUser user := by
  rw [← ofUser_tidy _ user c.user]
  exact ofUser_unregister s c user

theorem ofUser_strike_subset (s : RegistrationStore) (c : Client) (user : String) :
    (s.strike c).ofUser user ⊆ s.ofUser user := by
  rw [ofUser_strike]
  split
  · exact List.filter_sublist.subset
  · exact List.Subset.refl _

namespace IsFiled

theorem empty : IsFiled ∅ := by
  intro user r hr
  rw [ofUser_empty] at hr
  cases hr

theorem operate (h : s.IsFiled) (o : Operation) : (s.operate o).IsFiled := by
  intro user x hx
  cases o with
  | register r =>
      have hx : x ∈ (s.register r).ofUser user := hx
      rw [ofUser_register] at hx
      split at hx
      · rename_i hu
        rcases mem_place hx with rfl | hx
        · exact hu.symm
        · exact h user x hx
      · exact h user x hx
  | strike c => exact h user x (ofUser_strike_subset s c user hx)
  | tidy other =>
      have hx : x ∈ (s.tidy other).ofUser user := hx
      rw [ofUser_tidy] at hx
      exact h user x hx

theorem operateAll (h : s.IsFiled) (operations : List Operation) :
    (s.operateAll operations).IsFiled := by
  induction operations generalizing s with
  | nil => exact h
  | cons o operations ih => exact ih (h.operate o)

end IsFiled

end Courier.RegistrationStore
