/-!
# Programs that ask

A program is finished, or it asks its surroundings for something and goes on with the answer. The
kinds of requests are a parameter, and each request says what its answers look like. Programs are
finite data, so a statement about all of them is proved by induction with two cases, and the same
program runs in any surroundings.
-/
namespace Passbook

/-- A program over the requests `R`, whose answers are of type `A r`. -/
inductive Program (R : Type) (A : R → Type) (α : Type) : Type where
  | done (value : α)
  | ask (request : R) (next : A request → Program R A α)

namespace Program

variable {R : Type} {A : R → Type} {α β γ : Type}

/-- Goes on with `next` once the program is finished. -/
def bind : Program R A α → (α → Program R A β) → Program R A β
  | .done value, next => next value
  | .ask request rest, next => .ask request fun answer => (rest answer).bind next

instance : Monad (Program R A) where
  pure := .done
  bind := bind

def request (r : R) : Program R A (A r) := .ask r .done

/-- Runs a program in surroundings with a state. -/
def run {σ : Type} (surroundings : (r : R) → σ → A r × σ) : Program R A α → σ → α × σ
  | .done value, state => (value, state)
  | .ask r next, state =>
      let (answer, state) := surroundings r state
      (next answer).run surroundings state

@[simp] theorem pure_eq (value : α) : (pure value : Program R A α) = .done value := rfl

@[simp] theorem bind_eq (p : Program R A α) (f : α → Program R A β) : p >>= f = p.bind f := rfl

@[simp] theorem done_bind (value : α) (f : α → Program R A β) : (done value).bind f = f value := rfl

@[simp] theorem ask_bind (r : R) (next : A r → Program R A α) (f : α → Program R A β) :
    (ask r next).bind f = ask r fun answer => (next answer).bind f := rfl

theorem bind_done (p : Program R A α) : p.bind .done = p := by
  induction p with
  | done value => rfl
  | ask r next ih => simp only [ask_bind, ih]

theorem bind_assoc (p : Program R A α) (f : α → Program R A β) (g : β → Program R A γ) :
    (p.bind f).bind g = p.bind fun a => (f a).bind g := by
  induction p with
  | done value => rfl
  | ask r next ih => simp only [ask_bind, ih]

instance : LawfulMonad (Program R A) :=
  LawfulMonad.mk' _ bind_done (fun _ _ => rfl) bind_assoc

theorem run_bind {σ : Type} (surroundings : (r : R) → σ → A r × σ) (p : Program R A α)
    (f : α → Program R A β) (state : σ) :
    (p.bind f).run surroundings state =
      let (value, state) := p.run surroundings state
      (f value).run surroundings state := by
  induction p generalizing state with
  | done value => rfl
  | ask r next ih => simp only [ask_bind, run, ih]

end Program
end Passbook
