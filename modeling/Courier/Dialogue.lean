/-!
# Dialogues

A dialogue either is over or asks one question of the world and goes on with the answer. It says
what a computation asks, in which order and how it goes on, and leaves open who answers: a plain
function, a machine with a clock, or the outside world.
-/

namespace Courier

universe u

/-- A computation that asks questions `q : Q`, each answered by a value of `A q`, until it is over
with a value of `α`. -/
inductive Dialogue {Q : Type} (A : Q → Type) (α : Type) where
  | done (a : α)
  | ask (q : Q) (next : A q → Dialogue A α)

namespace Dialogue

variable {Q : Type} {A : Q → Type} {α β γ : Type}

/-- Goes on with another dialogue. -/
def bind : Dialogue A α → (α → Dialogue A β) → Dialogue A β
  | done a, f => f a
  | ask q next, f => ask q fun answer => (next answer).bind f

instance : Monad (Dialogue A) where
  pure := done
  bind := bind

/-- The dialogue that asks one question and is over with the answer. -/
def question (q : Q) : Dialogue A (A q) :=
  ask q done

/-- A dialogue with every question answered in a monad. -/
def run {m : Type → Type u} [Monad m] (answer : (q : Q) → m (A q)) : Dialogue A α → m α
  | done a => pure a
  | ask q next => answer q >>= fun a => (next a).run answer

/-- The result of a dialogue whose questions have fixed answers. -/
def result (answer : (q : Q) → A q) : Dialogue A α → α
  | done a => a
  | ask q next => (next (answer q)).result answer

/-- The questions that are asked under fixed answers, in order. -/
def asked (answer : (q : Q) → A q) : Dialogue A α → List Q
  | done _ => []
  | ask q next => q :: (next (answer q)).asked answer

@[simp] theorem pure_eq (a : α) : (pure a : Dialogue A α) = done a := rfl

@[simp] theorem bind_done (a : α) (f : α → Dialogue A β) : (done a >>= f) = f a := rfl

@[simp] theorem bind_ask (q : Q) (next : A q → Dialogue A α) (f : α → Dialogue A β) :
    (ask q next >>= f) = ask q fun a => next a >>= f := rfl

@[simp] theorem result_bind (answer : (q : Q) → A q) (d : Dialogue A α) (f : α → Dialogue A β) :
    (d >>= f).result answer = (f (d.result answer)).result answer := by
  induction d with
  | done a => rfl
  | ask q next ih => simpa [result] using ih (answer q)

@[simp] theorem asked_bind (answer : (q : Q) → A q) (d : Dialogue A α) (f : α → Dialogue A β) :
    (d >>= f).asked answer = d.asked answer ++ (f (d.result answer)).asked answer := by
  induction d with
  | done a => rfl
  | ask q next ih => simpa [asked, result] using ih (answer q)

theorem bind_assoc (d : Dialogue A α) (f : α → Dialogue A β) (g : β → Dialogue A γ) :
    (d >>= f >>= g) = (d >>= fun a => f a >>= g) := by
  induction d with
  | done a => rfl
  | ask q next ih =>
    simp only [bind_ask]
    exact congrArg _ (funext ih)

end Dialogue

end Courier
