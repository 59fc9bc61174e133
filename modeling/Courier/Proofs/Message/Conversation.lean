import Courier.Message.Selector
import Mathlib.Data.String.Basic
import Mathlib.Data.Sym.Sym2.Order

/-!
# Conversations and their texts

The text of a direct chat joins the names of its two users in their order, with one mark between
them. Main statement: groups are told by their texts, and no chat has the text of a group. Two chats
have one text exactly if they are the same, or if the mark within a name of one stands where the
other is joined.
-/

namespace Courier

/-- Two rows that are joined with a mark make up the same row exactly if they are the same, or if
the mark that joins one pair stands within a row of the other. -/
theorem Cut.append_cons_eq_append_cons_iff {α : Type} {mark : α} {a b c d : List α} :
    a ++ mark :: b = c ++ mark :: d ↔ (a = c ∧ b = d) ∨
      (∃ m, c = a ++ mark :: m ∧ b = m ++ mark :: d) ∨
      ∃ m, a = c ++ mark :: m ∧ d = m ++ mark :: b := by
  rw [List.append_eq_append_iff]
  constructor
  · rintro (⟨m, hc, hb⟩ | ⟨m, ha, hd⟩)
    · cases m with
      | nil => exact .inl ⟨by simpa using hc.symm, by simpa using hb⟩
      | cons x m =>
          rw [List.cons_append, List.cons.injEq] at hb
          obtain ⟨rfl, hb⟩ := hb
          exact .inr (.inl ⟨m, hc, hb⟩)
    · cases m with
      | nil => exact .inl ⟨by simpa using ha, by simpa using hd.symm⟩
      | cons x m =>
          rw [List.cons_append, List.cons.injEq] at hd
          obtain ⟨rfl, hd⟩ := hd
          exact .inr (.inr ⟨m, ha, hd⟩)
  · rintro (⟨rfl, rfl⟩ | ⟨m, rfl, rfl⟩ | ⟨m, rfl, rfl⟩)
    · exact .inl ⟨[], by simp, by simp⟩
    · exact .inl ⟨mark :: m, rfl, rfl⟩
    · exact .inr ⟨mark :: m, rfl, rfl⟩

namespace Selector

/-- Whether the first name of one chat goes on beyond the first name of another with the mark that
joins names, so that the other's second name holds the rest of it. -/
def Straddles (p q : Sym2 String) : Prop :=
  ∃ m, q.inf = p.inf ++ "_" ++ m ∧ p.sup = m ++ "_" ++ q.sup

variable {p q : Sym2 String}

/-- The text of the chat of two users. -/
def chatText (p : Sym2 String) : String :=
  "si_" ++ p.inf ++ "_" ++ p.sup

theorem conversation_direct (sender user : String) :
    (direct user).conversation sender = chatText s(sender, user) := by
  rw [conversation, chatText, Sym2.inf_mk, Sym2.sup_mk]
  by_cases h : sender ≤ user
  · rw [if_pos h, inf_eq_left.2 h, sup_eq_right.2 h]
  · have h' : user ≤ sender := (le_total sender user).resolve_left h
    rw [if_neg h, inf_eq_right.2 h', sup_eq_left.2 h']

theorem straddles_iff : Straddles p q ↔
    ∃ m, q.inf.toList = p.inf.toList ++ '_' :: m ∧ p.sup.toList = m ++ '_' :: q.sup.toList := by
  constructor
  · rintro ⟨m, hq, hp⟩
    exact ⟨m.toList, by simp [hq], by simp [hp]⟩
  · rintro ⟨m, hq, hp⟩
    exact ⟨String.ofList m, String.toList_injective (by simp [hq]),
      String.toList_injective (by simp [hp])⟩

/-- Chats with one text hold the same users, or the names of one straddle those of the other. -/
theorem chatText_eq_iff : chatText p = chatText q ↔ p = q ∨ Straddles p q ∨ Straddles q p := by
  have hl : ∀ r, (chatText r).toList = "si_".toList ++ (r.inf.toList ++ '_' :: r.sup.toList) := by
    intro r
    simp [chatText]
  rw [← String.toList_inj, hl, hl, List.append_cancel_left_eq,
    Cut.append_cons_eq_append_cons_iff, String.toList_inj, String.toList_inj,
    Sym2.inf_eq_inf_and_sup_eq_sup, straddles_iff, straddles_iff]

/-- Names straddle others only if they hold the mark. -/
theorem Straddles.mem (h : Straddles p q) : '_' ∈ p.sup.toList ∧ '_' ∈ q.inf.toList := by
  obtain ⟨m, hq, hp⟩ := straddles_iff.1 h
  simp [hq, hp]

/-- Whatever the names are, the two directions of a chat have one text, groups are told by their
texts, and no chat has the text of a group. Two chats have one text exactly if they have the same
users or the names of one straddle those of the other. -/
theorem conversation_eq_iff (sender other : String) :
    (∀ user user', (direct user).conversation sender = (direct user').conversation other ↔
      s(sender, user) = s(other, user') ∨ Straddles s(sender, user) s(other, user') ∨
        Straddles s(other, user') s(sender, user)) ∧
    (∀ name name', (group name).conversation sender = (group name').conversation other ↔
      name = name') ∧
    ∀ user name, (direct user).conversation sender ≠ (group name).conversation other := by
  refine ⟨fun user user' => ?_, fun name name' => ?_, fun user name h => ?_⟩
  · rw [conversation_direct, conversation_direct, chatText_eq_iff]
  · constructor
    · intro h
      have hl := congrArg String.toList h
      simpa [conversation, String.toList_inj] using hl
    · rintro rfl
      rfl
  · rw [conversation_direct] at h
    have hl := congrArg String.toList h
    simp [chatText, conversation] at hl

/-- The chat of `a` and `b_c` and the chat of `a_b` and `c` have one text. -/
theorem conversation_of_straddling :
    (direct "b_c").conversation "a" = (direct "c").conversation "a_b" ∧
      s("a", "b_c") ≠ s("a_b", "c") := by
  constructor
  · decide +kernel
  · decide

/-- Between users whose names do not hold the mark, chats are told by their texts. -/
theorem conversation_eq_iff_of_plain {sender other user user' : String}
    (hs : '_' ∉ sender.toList) (hu : '_' ∉ user.toList) :
    (direct user).conversation sender = (direct user').conversation other ↔
      s(sender, user) = s(other, user') := by
  have plain : '_' ∉ s(sender, user).inf.toList ∧ '_' ∉ s(sender, user).sup.toList := by
    rw [Sym2.inf_mk, Sym2.sup_mk]
    rcases le_total sender user with h | h
    · rw [inf_eq_left.2 h, sup_eq_right.2 h]
      exact ⟨hs, hu⟩
    · rw [inf_eq_right.2 h, sup_eq_left.2 h]
      exact ⟨hu, hs⟩
  rw [conversation_direct, conversation_direct, chatText_eq_iff]
  constructor
  · rintro (h | h | h)
    · exact h
    · exact absurd h.mem.1 plain.2
    · exact absurd h.mem.2 plain.1
  · exact .inl

end Selector
end Courier
