import Courier.Message.Selector

/-!
# Texts of selectors

A text is cut at its first colon, so an id may hold colons, and no kind does. Main statement: a text
is read as a selector exactly when it is what that selector is written as and the id is not empty,
and of any other text the first of three flaws is told.
-/

namespace Courier

theorem cutFirst?_eq_some_iff {mark : Char} {s a b : String} :
    cutFirst? mark s = some (a, b) ↔
      s.toList = a.toList ++ mark :: b.toList ∧ mark ∉ a.toList := by
  rw [cutFirst?, Option.map_eq_some_iff]
  constructor
  · rintro ⟨⟨before, rest⟩, hc, he⟩
    obtain ⟨rfl, rfl⟩ := Prod.mk.inj he
    simpa using Cut.first?_eq_some_iff.1 hc
  · intro h
    exact ⟨(a.toList, b.toList), Cut.first?_eq_some_iff.2 h, by simp⟩

theorem cutFirst?_eq_none_iff {mark : Char} {s : String} :
    cutFirst? mark s = none ↔ mark ∉ s.toList := by
  rw [cutFirst?, Option.map_eq_none_iff, Cut.first?_eq_none_iff]

namespace Selector

variable {s : Selector} {text : String}

theorem cutFirst?_render (s : Selector) : cutFirst? ':' s.render = some (s.kind, s.id) := by
  rw [cutFirst?_eq_some_iff]
  constructor
  · simp [render]
  · cases s <;> simp [kind]

/-- A text is read as the selector that is written so, unless the id is empty. -/
theorem parse_eq_ok_iff : parse text = .ok s ↔ text = s.render ∧ s.id ≠ "" := by
  constructor
  · intro h
    unfold parse at h
    split at h
    · cases h
    · rename_i kind id hc
      obtain ⟨ht, -⟩ := cutFirst?_eq_some_iff.1 hc
      have written : ∀ t : Selector, kind = t.kind → id = t.id → text = t.render := by
        rintro t rfl rfl
        apply String.toList_injective
        simp [ht, render]
      split at h
      · cases h
      · rename_i hid
        split at h
        · cases h
          exact ⟨written (.direct id) ‹_› rfl, hid⟩
        · split at h
          · cases h
            exact ⟨written (.group id) ‹_› rfl, hid⟩
          · cases h
  · rintro ⟨rfl, hid⟩
    rw [parse, cutFirst?_render]
    cases s with
    | direct user => simp_all [kind, id]
    | group name => simp_all [kind, id]

/-- Only selectors with an id are read. -/
theorem read_eq_ok_iff {v : Json} :
    read v = .ok s ↔ Json.readText v = .ok s.render ∧ s.id ≠ "" := by
  unfold read
  cases ht : Json.readText v with
  | error e => simp [bind, Except.bind]
  | ok text =>
    have hp : parse text = .ok s ↔ text = s.render ∧ s.id ≠ "" := parse_eq_ok_iff
    simp only [bind, Except.bind, Except.ok.injEq, ← hp]
    cases parse text <;> simp [pure, Except.pure, throw, throwThe, MonadExceptOf.throw]

/-! ### Texts that are refused -/

/-- Why a text is no selector, with the sentence about it: it has no colon, nothing follows its
first colon, or a kind stands before that colon that is not known. -/
inductive IsFlawed : String → String → Prop where
  | missingKind {text : String} :
      ':' ∉ text.toList → IsFlawed text ("selector missing kind: " ++ text)
  | missingId {kind : String} :
      ':' ∉ kind.toList → IsFlawed (kind ++ ":") ("selector missing id: " ++ (kind ++ ":"))
  | unknownKind {kind id : String} :
      ':' ∉ kind.toList → id ≠ "" → kind ≠ "direct" → kind ≠ "group" →
      IsFlawed (kind ++ ":" ++ id) ("unknown selector kind: " ++ kind)

variable {kind id : String}

/-- The texts with a colon are made of a kind without one, the colon and an id. -/
theorem cutFirst?_colon_eq_some_iff :
    cutFirst? ':' text = some (kind, id) ↔ text = kind ++ ":" ++ id ∧ ':' ∉ kind.toList := by
  rw [cutFirst?_eq_some_iff]
  refine and_congr_left fun _ => ?_
  rw [← String.toList_inj]
  simp

/-- An id may be anything that is not empty, and only two kinds are known. -/
theorem exists_render_iff :
    (∃ s : Selector, text = s.render ∧ s.id ≠ "") ↔
      ∃ id, id ≠ "" ∧ (text = "direct:" ++ id ∨ text = "group:" ++ id) := by
  constructor
  · rintro ⟨s, rfl, hid⟩
    cases s with
    | direct user => exact ⟨user, hid, .inl rfl⟩
    | group name => exact ⟨name, hid, .inr rfl⟩
  · rintro ⟨id, hid, rfl | rfl⟩
    · exact ⟨.direct id, rfl, hid⟩
    · exact ⟨.group id, rfl, hid⟩

/-- A text is refused for the first of three flaws that it has. -/
theorem parse_eq_error_iff {sentence : String} :
    (parse text).mapError SelectorError.message = .error sentence ↔ IsFlawed text sentence := by
  constructor
  · intro h
    unfold parse at h
    split at h
    · rename_i hc
      cases h
      exact .missingKind (cutFirst?_eq_none_iff.1 hc)
    · rename_i kind id hc
      obtain ⟨rfl, hk⟩ := cutFirst?_colon_eq_some_iff.1 hc
      split at h
      · rename_i hid
        cases h
        subst hid
        rw [String.append_empty]
        exact .missingId hk
      split at h
      · cases h
      split at h
      · cases h
      · rename_i hid hd hg
        cases h
        exact .unknownKind hk hid hd hg
  · intro h
    cases h with
    | missingKind hc =>
        rw [parse, cutFirst?_eq_none_iff.2 hc]
        rfl
    | @missingId kind hk =>
        rw [parse, cutFirst?_colon_eq_some_iff.2 ⟨(String.append_empty).symm, hk⟩]
        rfl
    | unknownKind hk hid hd hg =>
        rw [parse, cutFirst?_colon_eq_some_iff.2 ⟨rfl, hk⟩]
        simp only [if_neg hid, if_neg hd, if_neg hg]
        rfl

/-- A text is a selector exactly if it is a known kind, a colon and an id that is not empty, which
may hold further colons; it is then what the selector is written as. Every other text is refused:
without a colon for its kind, else without anything behind the first colon for its id, whatever kind
stands before it, and else for the kind. -/
theorem parse_grammar (text : String) :
    ((∃ s, parse text = .ok s) ↔
        ∃ id, id ≠ "" ∧ (text = "direct:" ++ id ∨ text = "group:" ++ id)) ∧
      (∀ s, parse text = .ok s ↔ text = s.render ∧ s.id ≠ "") ∧
      ∀ sentence, (parse text).mapError SelectorError.message = .error sentence ↔
        IsFlawed text sentence := by
  refine ⟨?_, fun s => parse_eq_ok_iff, fun sentence => parse_eq_error_iff⟩
  simp only [parse_eq_ok_iff]
  exact exists_render_iff

end Selector
end Courier
