import Courier.Proofs.Dialogue
import Mathlib.Init

/-!
# Computations that do not notice each other

Two computations on a state commute if it makes no difference which of them runs first, neither to
the state nor to what each brings; this may hold in states with a certain property only. Main
statements: what commutes with all that a dialogue asks, or with each of a row of computations,
commutes with the whole of it.
-/

namespace Courier

variable {σ α β γ : Type} {I : σ → Prop}

/-- Whether a computation keeps a property of the state. -/
def Keeps (I : σ → Prop) (f : StateM σ α) : Prop :=
  ∀ s, I s → I (f s).2

/-- Whether the order of two computations makes no difference. -/
structure Commutes (I : σ → Prop) (f : StateM σ α) (g : StateM σ β) : Prop where
  state : ∀ s, I s → (g (f s).2).2 = (f (g s).2).2
  left : ∀ s, I s → (f (g s).2).1 = (f s).1
  right : ∀ s, I s → (g (f s).2).1 = (g s).1

theorem Keeps.pure (a : α) : Keeps I (pure a) :=
  fun _ h => h

theorem Keeps.bind {f : StateM σ α} {h : α → StateM σ β} (hf : Keeps I f)
    (hh : ∀ a, Keeps I (h a)) : Keeps I (f >>= h) :=
  fun s hs => hh (f s).1 (f s).2 (hf s hs)

namespace Commutes

variable {f : StateM σ α} {g : StateM σ β} {h : α → StateM σ γ}

theorem symm (c : Commutes I f g) : Commutes I g f where
  state s hs := (c.state s hs).symm
  left := c.right
  right := c.left

theorem pure (a : α) (g : StateM σ β) : Commutes I (pure a) g where
  state _ _ := rfl
  left _ _ := rfl
  right _ _ := rfl

/-- What commutes with a computation, and with what follows it, commutes with both together. -/
theorem bind (hf : Commutes I f g) (kf : Keeps I f) (hh : ∀ a, Commutes I (h a) g) :
    Commutes I (f >>= h) g := by
  have after : ∀ s, I s → (f >>= h) (g s).2 = h (f s).1 (g (f s).2).2 := by
    intro s hs
    calc
      (f >>= h) (g s).2 = h (f (g s).2).1 (f (g s).2).2 := rfl
      _ = h (f s).1 (g (f s).2).2 := by rw [hf.left s hs, hf.state s hs]
  constructor
  · intro s hs
    rw [after s hs]
    exact (hh _).state _ (kf s hs)
  · intro s hs
    rw [after s hs]
    exact (hh _).left _ (kf s hs)
  · intro s hs
    exact ((hh _).right _ (kf s hs)).trans (hf.right s hs)

end Commutes

section Whole

variable {Q : Type} {A : Q → Type} {answer : (q : Q) → StateM σ (A q)} {p : Q → Prop}
  {d : Dialogue A α} {g : StateM σ β}

theorem Keeps.run (hk : ∀ q, p q → Keeps I (answer q)) (hd : d.Asks p) :
    Keeps I (d.run answer) := by
  induction d with
  | done a => exact .pure a
  | ask q next ih => exact (hk q hd.1).bind fun a => ih a (hd.2 a)

/-- What commutes with the answers to all questions of a dialogue commutes with its run. -/
theorem Commutes.run (hk : ∀ q, p q → Keeps I (answer q))
    (hc : ∀ q, p q → Commutes I (answer q) g) (hd : d.Asks p) : Commutes I (d.run answer) g := by
  induction d with
  | done a => exact .pure a g
  | ask q next ih => exact (hc q hd.1).bind (hk q hd.1) fun a => ih a (hd.2 a)

variable {f : γ → StateM σ α} {row : List γ}

theorem Keeps.mapM (hk : ∀ x ∈ row, Keeps I (f x)) : Keeps I (row.mapM f) := by
  induction row with
  | nil => exact .pure []
  | cons x row ih =>
      rw [List.mapM_cons]
      have ih := ih fun y hy => hk y (List.mem_cons_of_mem x hy)
      exact (hk x List.mem_cons_self).bind fun a => ih.bind fun as => .pure (a :: as)

/-- What commutes with each computation of a row commutes with the row. -/
theorem Commutes.mapM (hk : ∀ x ∈ row, Keeps I (f x)) (hc : ∀ x ∈ row, Commutes I (f x) g) :
    Commutes I (row.mapM f) g := by
  induction row with
  | nil => exact .pure [] g
  | cons x row ih =>
      rw [List.mapM_cons]
      have hrow : ∀ y ∈ row, Keeps I (f y) := fun y hy => hk y (List.mem_cons_of_mem x hy)
      have ih := ih hrow fun y hy => hc y (List.mem_cons_of_mem x hy)
      refine (hc x List.mem_cons_self).bind (hk x List.mem_cons_self) fun a => ?_
      exact ih.bind (.mapM hrow) fun as => .pure (a :: as) g

end Whole

end Courier
