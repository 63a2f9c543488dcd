/-!
# Programs that ask questions

A `Program` is a computation that asks questions of its surroundings and goes on with the answers.
As a value it is a tree: it says what would be asked for every way the answers may turn out.  Who
answers is left open:

* `exec` runs a program against a handler with a state;
* `transcript` lists the questions that come up on the way, with their answers.

`exec_bind` says that running one program after another is running their composition.
-/

namespace DoubleEntry

/-- A computation that asks questions `q : Q`, is answered by values in `A q` and ends with a value
in `α`. -/
inductive Program {Q : Type} (A : Q → Type) (α : Type) where
  /-- The end of the computation. -/
  | done (value : α)
  /-- A question, and how the computation goes on with each answer. -/
  | ask (q : Q) (next : A q → Program A α)

namespace Program

variable {Q : Type} {A : Q → Type} {α β γ : Type}

/-- Go on with the value of a program. -/
def andThen (f : α → Program A β) : Program A α → Program A β
  | .done a => f a
  | .ask q next => .ask q fun answer => (next answer).andThen f

instance : Monad (Program A) where
  pure := .done
  bind p f := p.andThen f

/-- The program that asks a single question. -/
def question (q : Q) : Program A (A q) :=
  .ask q .done

@[simp] theorem pure_eq (a : α) : (pure a : Program A α) = .done a := rfl

@[simp] theorem done_bind (a : α) (f : α → Program A β) : (Program.done a >>= f) = f a := rfl

@[simp] theorem ask_bind (q : Q) (next : A q → Program A α) (f : α → Program A β) :
    (Program.ask q next >>= f) = .ask q fun answer => next answer >>= f := rfl

theorem bind_done (p : Program A α) : (p >>= Program.done) = p := by
  induction p with
  | done a => rfl
  | ask q next ih => simp [ih]

theorem bind_assoc (p : Program A α) (f : α → Program A β) (g : β → Program A γ) :
    (p >>= f >>= g) = (p >>= fun a => f a >>= g) := by
  induction p with
  | done a => rfl
  | ask q next ih => simp [ih]

instance : LawfulMonad (Program A) :=
  LawfulMonad.mk' _ bind_done (fun _ _ => rfl) bind_assoc

/-! ## Running programs -/

/-- A handler answers questions, and may change its state in doing so. -/
abbrev Handler {Q : Type} (A : Q → Type) (S : Type) := (q : Q) → S → A q × S

/-- Run a program against a handler. -/
def exec {S : Type} (handler : Handler A S) : Program A α → S → α × S
  | .done a, s => (a, s)
  | .ask q next, s =>
    let (answer, s) := handler q s
    (next answer).exec handler s

theorem exec_bind {S : Type} (handler : Handler A S) (p : Program A α) (f : α → Program A β)
    (s : S) :
    (p >>= f).exec handler s =
      (f (p.exec handler s).1).exec handler (p.exec handler s).2 := by
  induction p generalizing s with
  | done a => rfl
  | ask q next ih => simp [exec, ih]

/-- The questions that a run asks, with their answers, in order. -/
def transcript {S : Type} (handler : Handler A S) : Program A α → S → List ((q : Q) × A q)
  | .done _, _ => []
  | .ask q next, s =>
    let (answer, s) := handler q s
    ⟨q, answer⟩ :: (next answer).transcript handler s

end Program

end DoubleEntry
