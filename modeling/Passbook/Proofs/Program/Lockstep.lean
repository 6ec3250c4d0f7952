import Passbook.Proofs.Program.Contract

/-!
# Programs in lockstep

Two programs are in lockstep if they ask for corresponding things as long as they are given
corresponding answers, and come to corresponding ends. What corresponds is a parameter: a
correspondence of the requests, and for each pair of them one of their answers. A program that is in
lockstep with itself does not depend on whatever the correspondence of the answers leaves open.

Being in lockstep is a statement about the two programs alone. It composes along `bind`, and carries
over to any two runs whose surroundings answer corresponding requests with corresponding answers.
-/
namespace Passbook

/-- Which requests correspond to each other, and which answers do. -/
structure Correspondence (R : Type) (A : R → Type) where
  asks : R → R → Prop
  answers : (r r' : R) → A r → A r' → Prop

namespace Program

variable {R : Type} {A : R → Type} {α β γ δ : Type}

/-- Whether two programs stay in lockstep until ends that are related by `ends`. -/
inductive Lockstep (corr : Correspondence R A) (ends : α → β → Prop) :
    Program R A α → Program R A β → Prop
  | done {a : α} {b : β} : ends a b → Lockstep corr ends (.done a) (.done b)
  | ask {r r' : R} {next : A r → Program R A α} {next' : A r' → Program R A β} :
      corr.asks r r' →
      (∀ answer answer', corr.answers r r' answer answer' →
        Lockstep corr ends (next answer) (next' answer')) →
      Lockstep corr ends (.ask r next) (.ask r' next')

variable {corr : Correspondence R A} {ends : α → β → Prop}

theorem Lockstep.bind {ends' : γ → δ → Prop} {p : Program R A α} {p' : Program R A β}
    {f : α → Program R A γ} {f' : β → Program R A δ} (h : Lockstep corr ends p p')
    (hf : ∀ a b, ends a b → Lockstep corr ends' (f a) (f' b)) :
    Lockstep corr ends' (p.bind f) (p'.bind f') := by
  induction h with
  | done hends => exact hf _ _ hends
  | ask hasks _ ih => exact .ask hasks fun answer answer' hanswers => ih answer answer' hanswers

theorem Lockstep.mono {ends' : α → β → Prop} {p : Program R A α} {p' : Program R A β}
    (h : Lockstep corr ends p p') (hends : ∀ a b, ends a b → ends' a b) :
    Lockstep corr ends' p p' := by
  induction h with
  | done hab => exact .done (hends _ _ hab)
  | ask hasks _ ih => exact .ask hasks fun answer answer' hanswers => ih answer answer' hanswers

theorem Lockstep.request {r r' : R} (h : corr.asks r r') :
    Lockstep corr (corr.answers r r') (Program.request r) (Program.request r') :=
  .ask h fun _ _ hanswers => .done hanswers

/-- Whether two surroundings, in related states, answer corresponding requests with corresponding
answers, which leaves their states related. -/
def Respects {σ τ : Type} (corr : Correspondence R A) (related : σ → τ → Prop)
    (surroundings : (r : R) → σ → A r × σ) (surroundings' : (r : R) → τ → A r × τ) : Prop :=
  ∀ r r' state state', corr.asks r r' → related state state' →
    corr.answers r r' (surroundings r state).1 (surroundings' r' state').1 ∧
      related (surroundings r state).2 (surroundings' r' state').2

/-- Runs of programs in lockstep end alike, and so do the states of their surroundings. -/
theorem Lockstep.run {σ τ : Type} {related : σ → τ → Prop}
    {surroundings : (r : R) → σ → A r × σ} {surroundings' : (r : R) → τ → A r × τ}
    (hrespects : Respects corr related surroundings surroundings') {p : Program R A α}
    {p' : Program R A β} (h : Lockstep corr ends p p') {state : σ} {state' : τ}
    (hstates : related state state') :
    ends (p.run surroundings state).1 (p'.run surroundings' state').1 ∧
      related (p.run surroundings state).2 (p'.run surroundings' state').2 := by
  induction h generalizing state state' with
  | done hends => exact ⟨hends, hstates⟩
  | ask hasks _ ih =>
      obtain ⟨hanswers, hnext⟩ := hrespects _ _ state state' hasks hstates
      exact ih _ _ hanswers hnext

end Program
end Passbook
