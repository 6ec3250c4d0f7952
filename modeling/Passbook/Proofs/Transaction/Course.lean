import Passbook.Atomic
import Passbook.Proofs.Program.Contract

/-!
# Courses of scripts

A course says what a script has heard so far, how many milliseconds that took, and what is left of
the script. A wait takes time without anything being heard, the clock and a hook are heard at once,
and the answer to a statement is heard after the time that the database takes. The course does not
know of any limit; a limit on a transaction cuts a course short and changes nothing else in it.
-/
namespace Passbook.Script
open Program (Event)

/-- What a script runs as: a program that ends with a value or with a failure. -/
abbrev Body (α : Type) : Type := Program Action Action.Answer (Except Failure α)

/-- Something asked for by a script, with the answer that was heard and the milliseconds it took. -/
structure Heard where
  action : Action
  answer : action.Answer
  after : Nat := 0

variable {α β : Type}

inductive Course : Body α → List Heard → Nat → Body α → Prop
  | start (p : Body α) : Course p [] 0 p
  | send {statement next heard millis q} (after : Nat) (outcome : Except StorageFault Answer) :
      Course (next outcome) heard millis q →
      Course (.ask (.send statement) next) (⟨.send statement, outcome, after⟩ :: heard) (after + millis) q
  | pause {wait next heard millis q} :
      Course (next ()) heard millis q → Course (.ask (.pause wait) next) heard (wait + millis) q
  | clock {next heard millis q} (now : Instant) :
      Course (next now) heard millis q → Course (.ask .clock next) (⟨.clock, now, 0⟩ :: heard) millis q
  | announce {hook user next heard millis q} (outcome : Except String Unit) :
      Course (next outcome) heard millis q →
      Course (.ask (.announce hook user) next) (⟨.announce hook user, outcome, 0⟩ :: heard) millis q

theorem Course.trans {p q q' : Body α} {heard heard' : List Heard} {millis millis' : Nat}
    (h : Course p heard millis q) (h' : Course q heard' millis' q') :
    Course p (heard ++ heard') (millis + millis') q' := by
  induction h with
  | start p => simpa only [List.nil_append, Nat.zero_add] using h'
  | send after outcome _ ih => simpa only [List.cons_append, Nat.add_assoc] using (ih h').send after outcome
  | pause _ ih => simpa only [Nat.add_assoc] using (ih h').pause
  | clock now _ ih => exact (ih h').clock now
  | announce outcome _ ih => exact (ih h').announce outcome

/-- What holds of all requests and results of a script, whatever it hears, holds of those that are
left. -/
theorem Course.keeps {p q : Body α} {heard : List Heard} {millis : Nat} (h : Course p heard millis q)
    {P : Action → Prop} {Q : Except Failure α → Prop} {past : List (Event Action Action.Answer)}
    (hp : p.Keeps (fun _ r => P r) (fun _ result => Q result) past) :
    ∃ past', q.Keeps (fun _ r => P r) (fun _ result => Q result) past' := by
  induction h generalizing past with
  | start p => exact ⟨past, hp⟩
  | send _ outcome _ ih => exact ih (hp.2 outcome)
  | pause _ ih => exact ih (hp.2 ())
  | clock now _ ih => exact ih (hp.2 now)
  | announce outcome _ ih => exact ih (hp.2 outcome)

/-- The statements among what was heard, with their answers; nothing if one of them failed. -/
def exchanges : List Heard → Option (List (Statement × Answer))
  | [] => some []
  | ⟨.send statement, .ok answer, _⟩ :: rest => (exchanges rest).map ((statement, answer) :: ·)
  | ⟨.send _, .error _, _⟩ :: _ => none
  | ⟨.pause _, _, _⟩ :: rest | ⟨.clock, _, _⟩ :: rest | ⟨.announce _ _, _, _⟩ :: rest => exchanges rest

theorem exchanges_append (heard heard' : List Heard) :
    exchanges (heard ++ heard') =
      (exchanges heard).bind fun log => (exchanges heard').map (log ++ ·) := by
  induction heard with
  | nil => simp [exchanges]
  | cons event rest ih =>
      rcases event with ⟨action, answer, after⟩
      cases action with
      | send statement =>
          cases answer with
          | ok answer => cases h : exchanges rest <;> cases h' : exchanges heard' <;> simp_all [exchanges]
          | error fault => simp [exchanges]
      | pause wait => simpa only [List.cons_append, exchanges] using ih
      | clock => simpa only [List.cons_append, exchanges] using ih
      | announce hook user => simpa only [List.cons_append, exchanges] using ih

theorem run_query_bind (query : Query α) (next : α → Script β) :
    (Script.query query >>= next).run =
      .ask (.send query.statement) fun outcome =>
        match query.result outcome with
        | .ok value => (next value).run
        | .error failure => .done (.error failure) := by
  refine congrArg (Program.ask _) (funext fun outcome => ?_)
  change ExceptT.bindCont next (query.result outcome) = _
  cases query.result outcome <;> rfl

theorem run_clock_bind (next : Instant → Script β) :
    (Script.clock >>= next).run = .ask .clock fun now => (next now).run := rfl

theorem run_announce_bind (hook : Hook) (user : User) (next : Unit → Script β) :
    (Script.announce hook user >>= next).run =
      .ask (.announce hook user) fun outcome =>
        match outcome with
        | .ok () => (next ()).run
        | .error reason => .done (.error (.afterCreate reason)) := by
  refine congrArg (Program.ask _) (funext fun outcome => ?_)
  cases outcome <;> rfl

theorem Course.of_done {result : Except Failure α} {heard : List Heard} {millis : Nat} {q : Body α}
    (h : Course (.done result) heard millis q) : heard = [] ∧ q = .done result := by
  cases h
  exact ⟨rfl, rfl⟩

theorem Course.of_query {query : Query α} {next : α → Script β} {heard : List Heard} {millis : Nat}
    {value : β} (h : Course (Script.query query >>= next).run heard millis (.done (.ok value))) :
    ∃ answer found after heard' millis', query.read answer = .ok found ∧
      heard = ⟨.send query.statement, .ok answer, after⟩ :: heard' ∧
      Course (next found).run heard' millis' (.done (.ok value)) := by
  rw [run_query_bind] at h
  cases h with
  | @send _ _ heard' millis' _ after outcome h =>
      cases outcome with
      | error fault => cases h.of_done.2
      | ok answer =>
          cases hread : query.read answer with
          | error fault =>
              simp only [Query.result, hread] at h
              cases h.of_done.2
          | ok found =>
              simp only [Query.result, hread] at h
              exact ⟨answer, found, after, heard', millis', hread, rfl, h⟩

theorem Course.of_clock {next : Instant → Script β} {heard : List Heard} {millis : Nat} {value : β}
    (h : Course (Script.clock >>= next).run heard millis (.done (.ok value))) :
    ∃ now heard', heard = ⟨.clock, now, 0⟩ :: heard' ∧
      Course (next now).run heard' millis (.done (.ok value)) := by
  rw [run_clock_bind] at h
  cases h with
  | clock now h => exact ⟨now, _, rfl, h⟩

/-- Whether all statements of a script, whatever it hears, are of one sort. -/
def Sends (P : Statement → Prop) (p : Body α) : Prop :=
  ∀ past, p.Keeps (fun _ action => ∀ statement, action = .send statement → P statement)
    (fun _ _ => True) past

variable {P : Statement → Prop}

theorem sends_pure (value : α) : Sends P (pure value : Script α).run := fun _ => trivial

theorem sends_fail (failure : Failure) : Sends P (Script.fail failure : Script α).run := fun _ => trivial

theorem sends_query {query : Query α} {next : α → Script β} (hquery : P query.statement)
    (h : ∀ value, Sends P (next value).run) : Sends P (Script.query query >>= next).run := by
  intro past
  rw [run_query_bind]
  refine ⟨fun _ heq => Action.send.inj heq ▸ hquery, fun outcome => ?_⟩
  cases hresult : query.result outcome with
  | ok value => simpa only [hresult] using h value _
  | error failure => simp only [hresult, Program.keeps_done]

theorem sends_clock {next : Instant → Script β} (h : ∀ now, Sends P (next now).run) :
    Sends P (Script.clock >>= next).run := by
  intro past
  rw [run_clock_bind]
  exact ⟨nofun, fun now => h now _⟩

theorem sends_announce {hook : Hook} {user : User} {next : Unit → Script β}
    (h : ∀ value, Sends P (next value).run) : Sends P (Script.announce hook user >>= next).run := by
  intro past
  rw [run_announce_bind]
  refine ⟨nofun, fun outcome => ?_⟩
  cases outcome with
  | ok => exact h () _
  | error reason => trivial

theorem Course.sends {p : Body α} {heard : List Heard} {millis : Nat} {statement : Statement}
    {next : Except StorageFault Answer → Body α}
    (h : Course p heard millis (.ask (.send statement) next)) (hp : Sends P p) : P statement := by
  obtain ⟨_, hask⟩ := h.keeps (Q := fun _ => True) (hp [])
  exact hask.1 statement rfl

end Passbook.Script
