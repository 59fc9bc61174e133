/-!
# Cutting a row

A row is cut at the first or at the last place of a mark, or at every place. Main statements: a cut
at the first mark gives two parts exactly when they and the mark make up the row and the mark is not
in the first; the parts between all marks make up the row again, and hold no mark.
-/

namespace Courier

namespace Cut

variable {α : Type} [DecidableEq α]

/-- What stands before the first `mark` and what follows it. -/
def first? (mark : α) : List α → Option (List α × List α)
  | [] => none
  | x :: xs => if x = mark then some ([], xs) else (first? mark xs).map fun r => (x :: r.1, r.2)

/-- What stands before the last `mark` and what follows it. -/
def last? (mark : α) (xs : List α) : Option (List α × List α) :=
  (first? mark xs.reverse).map fun r => (r.2.reverse, r.1.reverse)

/-- The parts between the places of `mark`: one more than there are places. -/
def parts (mark : α) : List α → List (List α)
  | [] => [[]]
  | x :: xs =>
    if x = mark then [] :: parts mark xs
    else
      match parts mark xs with
      | [] => [[x]]
      | first :: rest => (x :: first) :: rest

theorem first?_eq_some_iff {mark : α} {xs a b : List α} :
    first? mark xs = some (a, b) ↔ xs = a ++ mark :: b ∧ mark ∉ a := by
  induction xs generalizing a with
  | nil => simp [first?]
  | cons x xs ih =>
    by_cases hx : x = mark
    · subst hx
      cases a with
      | nil => simp [first?]
      | cons y a => simp only [first?, if_true]; grind
    · simp only [first?, if_neg hx, Option.map_eq_some_iff, Prod.exists, Prod.mk.injEq]
      cases a with
      | nil => simp [hx]
      | cons y a =>
        simp only [List.cons_append, List.cons.injEq, List.mem_cons, not_or]
        constructor
        · rintro ⟨c, d, h, ⟨rfl, rfl⟩, rfl⟩
          have := ih.1 h
          exact ⟨⟨rfl, this.1⟩, Ne.symm hx, this.2⟩
        · rintro ⟨⟨rfl, h⟩, -, hm⟩
          exact ⟨a, b, ih.2 ⟨h, hm⟩, ⟨rfl, rfl⟩, rfl⟩

theorem first?_eq_none_iff {mark : α} {xs : List α} : first? mark xs = none ↔ mark ∉ xs := by
  induction xs with
  | nil => simp [first?]
  | cons x xs ih =>
    by_cases hx : x = mark
    · simp [first?, hx]
    · simp [first?, hx, ih, Ne.symm hx]

theorem last?_eq_some_iff {mark : α} {xs a b : List α} :
    last? mark xs = some (a, b) ↔ xs = a ++ mark :: b ∧ mark ∉ b := by
  simp only [last?, Option.map_eq_some_iff, Prod.exists, Prod.mk.injEq, first?_eq_some_iff]
  constructor
  · rintro ⟨c, d, ⟨hc, hd⟩, rfl, rfl⟩
    rw [List.reverse_eq_iff] at hc
    simp_all
  · rintro ⟨rfl, h⟩
    exact ⟨b.reverse, a.reverse, by simp [h], by simp, by simp⟩

theorem parts_ne_nil (mark : α) (xs : List α) : parts mark xs ≠ [] := by
  cases xs with
  | nil => simp [parts]
  | cons x xs =>
    by_cases h : x = mark
    · simp [parts, h]
    · simp only [parts, if_neg h]
      split <;> simp

theorem intercalate_parts (mark : α) (xs : List α) :
    List.intercalate [mark] (parts mark xs) = xs := by
  induction xs with
  | nil => rfl
  | cons x xs ih =>
    by_cases h : x = mark
    · subst h
      simp only [parts, if_true]
      cases hp : parts x xs with
      | nil => exact absurd hp (parts_ne_nil x xs)
      | cons p ps =>
        conv => rhs; rw [← ih, hp]
        simp [List.intercalate]
    · simp only [parts, if_neg h]
      cases hp : parts mark xs with
      | nil => exact absurd hp (parts_ne_nil mark xs)
      | cons p ps =>
        conv => rhs; rw [← ih, hp]
        cases ps <;> simp [List.intercalate]

theorem notMem_of_mem_parts {mark : α} {xs p : List α} (h : p ∈ parts mark xs) : mark ∉ p := by
  induction xs generalizing p with
  | nil => simp_all [parts]
  | cons x xs ih =>
    by_cases hx : x = mark
    · subst hx
      simp only [parts, if_true, List.mem_cons] at h
      rcases h with rfl | h
      · simp
      · exact ih h
    · simp only [parts, if_neg hx] at h
      cases hp : parts mark xs with
      | nil => exact absurd hp (parts_ne_nil mark xs)
      | cons q qs =>
        rw [hp] at h
        simp only [List.mem_cons] at h
        rcases h with rfl | h
        · have := ih (hp ▸ List.mem_cons_self : q ∈ parts mark xs)
          simp [this, Ne.symm hx]
        · exact ih (hp ▸ List.mem_cons_of_mem q h)

end Cut

/-- The texts before and after the first `mark` in a text. -/
def cutFirst? (mark : Char) (s : String) : Option (String × String) :=
  (Cut.first? mark s.toList).map fun r => (String.ofList r.1, String.ofList r.2)

end Courier
