import Courier.Message.Event
import Mathlib.Init

/-!
# Recipients

No user gets a message twice, and the members of a group get it in the order in which they are first
named.
-/

namespace Courier.Event

/-- Whether users are those of a row of members that pass, each once, in the order of their first
places. -/
structure IsFirstCome (p : String → Prop) (members users : List String) : Prop where
  nodup : users.Nodup
  mem : ∀ user, user ∈ users ↔ user ∈ members ∧ p user
  order : users.Pairwise fun a b => members.idxOf a < members.idxOf b

theorem mem_firstOccurrences {seen members : List String} {user : String} :
    user ∈ firstOccurrences seen members ↔ user ∈ members ∧ user ∉ seen := by
  fun_induction firstOccurrences seen members with
  | case1 seen => simp
  | case2 seen m ms hm ih =>
      rw [ih]
      constructor
      · rintro ⟨hu, hs⟩
        exact ⟨List.mem_cons_of_mem m hu, hs⟩
      · rintro ⟨hu, hs⟩
        rcases List.mem_cons.1 hu with rfl | hu
        · exact absurd hm hs
        · exact ⟨hu, hs⟩
  | case3 seen m ms hm ih =>
      rw [List.mem_cons, ih, List.mem_cons, List.mem_cons]
      constructor
      · rintro (rfl | ⟨hu, hs⟩)
        · exact ⟨.inl rfl, hm⟩
        · exact ⟨.inr hu, fun h => hs (.inr h)⟩
      · rintro ⟨rfl | hu, hs⟩
        · exact .inl rfl
        · by_cases he : user = m
          · exact .inl he
          · exact .inr ⟨hu, fun h => h.elim he hs⟩

theorem nodup_firstOccurrences (seen members : List String) :
    (firstOccurrences seen members).Nodup := by
  fun_induction firstOccurrences seen members with
  | case1 seen => exact List.nodup_nil
  | case2 seen m ms hm ih => exact ih
  | case3 seen m ms hm ih =>
      refine List.nodup_cons.2 ⟨fun h => ?_, ih⟩
      exact (mem_firstOccurrences.1 h).2 List.mem_cons_self

/-- What comes after a member that is seen keeps its order. -/
theorem pairwise_cons {m : String} {ms users : List String} (h : m ∉ users)
    (hp : users.Pairwise fun a b => ms.idxOf a < ms.idxOf b) :
    users.Pairwise fun a b => (m :: ms).idxOf a < (m :: ms).idxOf b := by
  have hne : ∀ {a}, a ∈ users → (m == a) = false := by
    intro a ha
    simpa using fun he : m = a => h (he ▸ ha)
  refine hp.imp_of_mem fun ha hb hab => ?_
  simpa [List.idxOf_cons, hne ha, hne hb] using hab

theorem pairwise_firstOccurrences (seen members : List String) :
    (firstOccurrences seen members).Pairwise fun a b => members.idxOf a < members.idxOf b := by
  fun_induction firstOccurrences seen members with
  | case1 seen => exact List.Pairwise.nil
  | case2 seen m ms hm ih => exact pairwise_cons (fun h => (mem_firstOccurrences.1 h).2 hm) ih
  | case3 seen m ms hm ih =>
      have hnot : m ∉ firstOccurrences (m :: seen) ms := fun h =>
        (mem_firstOccurrences.1 h).2 List.mem_cons_self
      refine List.pairwise_cons.2 ⟨fun b hb => ?_, pairwise_cons hnot ih⟩
      have hmb : (m == b) = false := by
        simpa using fun he : m = b => hnot (he ▸ hb)
      simp [List.idxOf_cons, hmb]

/-- The order of members that pass is that of all. -/
theorem idxOf_filter_lt {p : String → Bool} {a b : String} (ha : p a = true) (hb : p b = true)
    {members : List String}
    (h : (members.filter p).idxOf a < (members.filter p).idxOf b) :
    members.idxOf a < members.idxOf b := by
  induction members with
  | nil => simp at h
  | cons m ms ih =>
      have hne : ∀ {c}, p c = true → p m = false → (m == c) = false := by
        intro c hc hm
        simpa using fun he : m = c => by
          rw [he, hc] at hm
          cases hm
      cases hm : p m with
      | false =>
          rw [List.filter_cons_of_neg (by simp [hm])] at h
          simpa [List.idxOf_cons, hne ha hm, hne hb hm] using ih h
      | true =>
          rw [List.filter_cons_of_pos hm] at h
          simp only [List.idxOf_cons] at h ⊢
          cases hb' : m == b with
          | true => simp [hb'] at h
          | false =>
              cases ha' : m == a with
              | true => simp
              | false =>
                  simp only [ha', hb', cond_false, Nat.add_lt_add_iff_right] at h ⊢
                  exact ih h

variable (e : Event)

/-- A message for a group goes to its members, without the sender unless its other sessions are to
get it. -/
theorem isFirstCome_groupRecipients (members : List String) :
    IsFirstCome (fun user => e.senderSync = true ∨ user ≠ e.sender) members
      (e.groupRecipients members) := by
  have hmem : ∀ user, user ∈ e.groupRecipients members ↔
      user ∈ members ∧ (e.senderSync = true ∨ user ≠ e.sender) := by
    intro user
    simp [groupRecipients, mem_firstOccurrences]
  refine ⟨nodup_firstOccurrences _ _, hmem, ?_⟩
  refine (pairwise_firstOccurrences _ _).imp_of_mem fun {a b} ha hb hab => ?_
  have pass : ∀ {c}, c ∈ e.groupRecipients members →
      (e.senderSync || decide (c ≠ e.sender)) = true := by
    intro c hc
    simpa using ((hmem c).1 hc).2
  exact idxOf_filter_lt (pass ha) (pass hb) hab

/-- Members that are named again, and the sender, are passed over. -/
example : { (default : Event) with sender := "a" }.groupRecipients ["b", "a", "b", "c"] =
    ["b", "c"] := by
  decide

theorem nodup_directRecipients (user : String) : (e.directRecipients user).Nodup := by
  unfold directRecipients
  split
  · rename_i h
    simpa using Ne.symm h.2
  · simp

end Courier.Event
