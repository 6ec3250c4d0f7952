import Mathlib
import Passbook.Program

/-!
# Contracts of programs

The history of a run lists what was asked for together with the answers. A contract says what must
hold of the history before each request and at the end. Whether a program keeps a contract is a
statement about the program alone: every answer is allowed. It therefore holds of a run in any
surroundings, and of what is left of a program that has been stopped anywhere.
-/
namespace Passbook.Program

/-- A request with its answer. -/
abbrev Event (R : Type) (A : R → Type) : Type := (request : R) × A request

variable {R : Type} {A : R → Type} {α β : Type}

def history {σ : Type} (surroundings : (r : R) → σ → A r × σ) : Program R A α → σ → List (Event R A)
  | .done _, _ => []
  | .ask r next, state =>
      let (answer, state) := surroundings r state
      ⟨r, answer⟩ :: (next answer).history surroundings state

/-- Whether the program, after `past`, keeps the contract that `before` holds ahead of each request
and `after` at the end. -/
def Keeps (before : List (Event R A) → R → Prop) (after : List (Event R A) → α → Prop) :
    Program R A α → List (Event R A) → Prop
  | .done value, past => after past value
  | .ask r next, past => before past r ∧ ∀ answer, (next answer).Keeps before after (past ++ [⟨r, answer⟩])

variable {before : List (Event R A) → R → Prop} {past : List (Event R A)}

@[simp] theorem keeps_done {after : List (Event R A) → α → Prop} (value : α) :
    (done value : Program R A α).Keeps before after past ↔ after past value := Iff.rfl

@[simp] theorem keeps_ask {after : List (Event R A) → α → Prop} (r : R) (next : A r → Program R A α) :
    (ask r next).Keeps before after past ↔
      before past r ∧ ∀ answer, (next answer).Keeps before after (past ++ [⟨r, answer⟩]) := Iff.rfl

/-- Two programs in a row: what the first leaves must let the second keep the contract. -/
theorem keeps_bind {after : List (Event R A) → β → Prop} (p : Program R A α) (f : α → Program R A β) :
    (p.bind f).Keeps before after past ↔
      p.Keeps before (fun past value => (f value).Keeps before after past) past := by
  induction p generalizing past with
  | done value => rfl
  | ask r next ih => simp only [ask_bind, keeps_ask, ih]

theorem Keeps.mono {before' : List (Event R A) → R → Prop} {after after' : List (Event R A) → α → Prop}
    (hbefore : ∀ past r, before past r → before' past r)
    (hafter : ∀ past value, after past value → after' past value) {p : Program R A α}
    (h : p.Keeps before after past) : p.Keeps before' after' past := by
  induction p generalizing past with
  | done value => exact hafter _ _ h
  | ask r next ih => exact ⟨hbefore _ _ h.1, fun answer => ih answer (h.2 answer)⟩

/-- What no further event undoes still holds at the end. -/
theorem keeps_of_append {P : List (Event R A) → Prop} (happend : ∀ past later, P past → P (past ++ later))
    (p : Program R A α) (h : P past) : p.Keeps (fun _ _ => True) (fun past _ => P past) past := by
  induction p generalizing past with
  | done value => exact h
  | ask r next ih => exact ⟨trivial, fun answer => ih answer (happend past _ h)⟩

theorem Keeps.behind {after : List (Event R A) → α → Prop} {p : Program R A α}
    (earlier : List (Event R A)) (h : p.Keeps before after past) :
    p.Keeps (fun whole r => ∃ past, whole = earlier ++ past ∧ before past r)
      (fun whole value => ∃ past, whole = earlier ++ past ∧ after past value) (earlier ++ past) := by
  induction p generalizing past with
  | done value => exact ⟨past, rfl, h⟩
  | ask r next ih =>
      refine ⟨⟨past, rfl, h.1⟩, fun answer => ?_⟩
      simpa only [List.append_assoc] using ih answer (h.2 answer)

theorem Keeps.and {before' : List (Event R A) → R → Prop} {after after' : List (Event R A) → α → Prop}
    {p : Program R A α} (h : p.Keeps before after past) (h' : p.Keeps before' after' past) :
    p.Keeps (fun past r => before past r ∧ before' past r)
      (fun past value => after past value ∧ after' past value) past := by
  induction p generalizing past with
  | done value => exact ⟨h, h'⟩
  | ask r next ih => exact ⟨⟨h.1, h'.1⟩, fun answer => ih answer (h.2 answer) (h'.2 answer)⟩

section Runs
variable {σ : Type} (surroundings : (r : R) → σ → A r × σ)

/-- What is answered in a run is what the surroundings answer. -/
theorem answered_of_mem (p : Program R A α) (state : σ) {event : Event R A}
    (h : event ∈ p.history surroundings state) : ∃ state, event.2 = (surroundings event.1 state).1 := by
  induction p generalizing state with
  | done value => exact absurd h List.not_mem_nil
  | ask r next ih =>
      rcases List.mem_cons.mp h with rfl | h
      · exact ⟨state, rfl⟩
      · exact ih _ _ h

/-- A run ends as the contract says, in any surroundings. -/
theorem Keeps.run {after : List (Event R A) → α → Prop} {p : Program R A α}
    (h : p.Keeps before after past) (state : σ) :
    after (past ++ p.history surroundings state) (p.run surroundings state).1 := by
  induction p generalizing past state with
  | done value => simpa only [history, List.append_nil, Program.run, keeps_done] using h
  | ask r next ih =>
      have := ih _ (h.2 (surroundings r state).1) (surroundings r state).2
      simpa only [history, Program.run, List.append_assoc, List.singleton_append] using this

/-- Before each request of a run its contract holds of what was heard by then. -/
theorem Keeps.asked_after {after : List (Event R A) → α → Prop} {p : Program R A α}
    (h : p.Keeps before after past) (state : σ) {earlier later : List (Event R A)} {event : Event R A}
    (hhistory : p.history surroundings state = earlier ++ event :: later) :
    before (past ++ earlier) event.1 := by
  induction p generalizing past state earlier with
  | done value => exact absurd hhistory.symm (List.append_ne_nil_of_right_ne_nil _ (List.cons_ne_nil _ _))
  | ask r next ih =>
      cases earlier with
      | nil =>
          obtain ⟨rfl, _⟩ := List.cons.inj hhistory
          rw [List.append_nil]
          exact h.1
      | cons first earlier =>
          obtain ⟨rfl, hrest⟩ := List.cons.inj hhistory
          have hnext := ih _ (h.2 _) _ hrest
          rwa [List.append_assoc] at hnext

theorem Keeps.asked {P : R → Prop} {after : List (Event R A) → α → Prop} {p : Program R A α}
    (h : p.Keeps (fun _ r => P r) after past) (state : σ) :
    ∀ event ∈ p.history surroundings state, P event.1 := by
  induction p generalizing past state with
  | done value => exact fun _ hevent => absurd hevent List.not_mem_nil
  | ask r next ih =>
      intro event hevent
      rcases List.mem_cons.mp hevent with rfl | hevent
      · exact h.1
      · exact ih _ (h.2 _) _ event hevent

end Runs

end Passbook.Program
