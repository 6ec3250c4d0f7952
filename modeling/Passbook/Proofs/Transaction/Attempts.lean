import Passbook.Rehearsal

/-!
# Attempts of a rehearsal

What a service attempts on its connection, with the replies. A command counts as attempted also if it
finds a fault unread or the connection gone, and so never reaches the database; what the rehearsal
notes is the part that did.
-/
namespace Passbook

variable {α β : Type}

/-- A command given to the connection, with the reply to it. -/
structure Attempt where
  command : Command
  reply : Reply

namespace Rehearsal

/-- The reply to a command, before anything is learned from it. What has been left unread comes first,
and a connection that is gone replies nothing. -/
def takeReply (command : Command) (r : Rehearsal) : Reply × Rehearsal :=
  match r.unread with
  | some fault => ({ outcome := .error fault }, { r with unread := none })
  | none => if r.isConnected then exchange command r else ({ outcome := .error .connectionLost }, r)

def attempted (action : Service.Action) (r : Rehearsal) : List Attempt :=
  match action with
  | .send command => [⟨command, (takeReply command r).1⟩]
  | .sendWithin statement _ => [⟨.statement statement, (takeReply (.statement statement) r).1⟩]
  | .release true => if r.isConnected then [⟨.rollback, (exchange .rollback r).1⟩] else []
  | _ => []

def attempts : Service α → Rehearsal → List Attempt
  | .done _, _ => []
  | .ask action next, r =>
      r.attempted action ++ attempts (next (surroundings action r).1) (surroundings action r).2

theorem attempts_bind (p : Service α) (f : α → Service β) (r : Rehearsal) :
    attempts (p.bind f) r = attempts p r ++ attempts (f (run p r).1) (run p r).2 := by
  induction p generalizing r with
  | done value => rfl
  | ask action next ih =>
      simp only [Program.ask_bind, attempts, ih, List.append_assoc, run, Program.run]

@[simp] theorem learn_fst (outcome : Except StorageFault α) (r : Rehearsal) :
    (learn outcome r).1 = outcome := by
  unfold learn
  split <;> rfl

theorem send_eq (command : Command) (r : Rehearsal) :
    r.send command = learn (takeReply command r).1.outcome (takeReply command r).2 := by
  rcases r with ⟨_, isConnected, unread, _⟩
  cases unread with
  | some fault => rfl
  | none => cases isConnected <;> rfl

/-- Patience plays a part only if the answer takes longer than what is left of it. -/
theorem sendWithin_eq (statement : Statement) (patience : Nat) (r : Rehearsal) :
    r.sendWithin statement patience =
      let (reply, taken) := takeReply (.statement statement) r
      if patience < reply.delay then (.overdue, { taken with unread := leftover reply.outcome })
      else (.inTime reply.delay reply.outcome, (r.send (.statement statement)).2) := by
  rw [send_eq]
  rcases r with ⟨_, isConnected, unread, _⟩
  cases unread with
  | some fault => simp [sendWithin, takeReply]
  | none =>
      cases isConnected with
      | false => simp [sendWithin, takeReply, learn]
      | true => simp [sendWithin, takeReply]

theorem send_fst (command : Command) (r : Rehearsal) :
    (r.send command).1 = (takeReply command r).1.outcome := by rw [send_eq, learn_fst]

theorem attempts_checkout (next : Except StorageFault Unit → Service α) (r : Rehearsal) :
    attempts (.ask .checkout next) r = attempts (next r.checkout.1) r.checkout.2 := rfl

theorem run_checkout (next : Except StorageFault Unit → Service α) (r : Rehearsal) :
    run (.ask .checkout next) r = run (next r.checkout.1) r.checkout.2 := rfl

theorem attempts_send (command : Command) (next : Except StorageFault Answer → Service α)
    (r : Rehearsal) :
    attempts (.ask (.send command) next) r =
      ⟨command, (takeReply command r).1⟩ ::
        attempts (next (takeReply command r).1.outcome) (r.send command).2 := by
  rw [← send_fst]
  rfl

theorem run_send (command : Command) (next : Except StorageFault Answer → Service α) (r : Rehearsal) :
    run (.ask (.send command) next) r =
      run (next (takeReply command r).1.outcome) (r.send command).2 := by
  rw [← send_fst]
  rfl

/-- A connection given back at the end adds to the attempts only what undoes its transaction. -/
theorem attempts_release (inTransaction : Bool) (result : α) (r : Rehearsal) :
    attempts (.ask (.release inTransaction) fun () => .done result) r =
      r.attempted (.release inTransaction) := List.append_nil _

/-- Whether the connection is there, and what is unread on it does not say otherwise. -/
def IsLive (r : Rehearsal) : Prop := r.isConnected = true ∧ r.unread ≠ some .connectionLost

/-- Whether one of these replies told that the connection is lost. -/
def Lost (attempts : List Attempt) : Prop :=
  ∃ attempt ∈ attempts, attempt.reply.outcome = .error .connectionLost

theorem isLive_learn (outcome : Except StorageFault Answer) (r : Rehearsal) :
    (learn outcome r).2.IsLive ↔ r.IsLive ∧ outcome ≠ .error .connectionLost := by
  unfold learn
  split
  · simp [IsLive]
  · next h => exact ⟨fun hlive => ⟨hlive, fun heq => h heq⟩, And.left⟩

theorem isLive_leftover (outcome : Except StorageFault Answer) (r : Rehearsal) (h : r.unread = none) :
    ({ r with unread := leftover outcome } : Rehearsal).IsLive ↔
      r.IsLive ∧ outcome ≠ .error .connectionLost := by
  cases outcome with
  | ok answer => simp [IsLive, leftover, h]
  | error fault => simp [IsLive, leftover, h]

theorem takeReply_unread (command : Command) (r : Rehearsal) :
    (takeReply command r).2.unread = none := by
  rcases r with ⟨_, isConnected, unread, _⟩
  cases unread with
  | some fault => rfl
  | none => cases isConnected <;> rfl

theorem isLive_takeReply (command : Command) (r : Rehearsal) :
    (takeReply command r).2.IsLive ∧ (takeReply command r).1.outcome ≠ .error .connectionLost ↔
      r.IsLive ∧ (takeReply command r).1.outcome ≠ .error .connectionLost := by
  rcases r with ⟨_, isConnected, unread, _⟩
  cases unread with
  | some fault => simp [IsLive, takeReply]
  | none => cases isConnected <;> simp [IsLive, takeReply, exchange]

theorem isLive_send (command : Command) (r : Rehearsal) :
    (r.send command).2.IsLive ↔
      r.IsLive ∧ (takeReply command r).1.outcome ≠ .error .connectionLost := by
  rw [send_eq, isLive_learn, isLive_takeReply]

theorem isLive_of_ok {command : Command} {r : Rehearsal} {answer : Answer}
    (h : (takeReply command r).1.outcome = .ok answer) : (r.send command).2.IsLive := by
  rw [isLive_send]
  rcases r with ⟨_, isConnected, unread, _⟩
  cases unread with
  | some fault => cases h
  | none =>
      cases isConnected with
      | false => cases h
      | true => exact ⟨⟨rfl, nofun⟩, by rw [h]; nofun⟩

theorem isLive_sendWithin (statement : Statement) (patience : Nat) (r : Rehearsal) :
    (r.sendWithin statement patience).2.IsLive ↔
      r.IsLive ∧ (takeReply (.statement statement) r).1.outcome ≠ .error .connectionLost := by
  rw [sendWithin_eq]
  split
  rename_i reply taken htaken
  split
  · have hunread : taken.unread = none := by simpa [htaken] using takeReply_unread (.statement statement) r
    have h := isLive_takeReply (.statement statement) r
    simp only [htaken] at h ⊢
    rw [isLive_leftover _ _ hunread, h]
  · simpa only [htaken] using isLive_send (.statement statement) r

theorem isLive_announce (hook : Hook) (user : User) (r : Rehearsal) :
    (r.announce hook user).2.IsLive ↔ r.IsLive := by
  unfold announce
  cases hook with
  | enqueue => cases h : r.queue.offer ⟨user.username⟩ <;> simp [IsLive]
  | allow => rfl
  | refuse reason => rfl

theorem lost_append {before after : List Attempt} : Lost (before ++ after) ↔ Lost before ∨ Lost after := by
  simp only [Lost, List.mem_append, or_and_right, exists_or]

@[simp] theorem lost_singleton {attempt : Attempt} :
    Lost [attempt] ↔ attempt.reply.outcome = .error .connectionLost := by
  simp [Lost]

@[simp] theorem not_lost_nil : ¬Lost [] := fun ⟨_, h, _⟩ => absurd h List.not_mem_nil

/-- Of these attempts, only some reach the database and are noted. -/
def Notes (before after : Rehearsal) (attempts : List Attempt) : Prop :=
  ∃ noted, after.trace.commands = before.trace.commands ++ noted ∧
    noted.Sublist (attempts.map (·.command))

theorem Notes.of_eq {before after : Rehearsal} {attempts : List Attempt}
    (h : after.trace.commands = before.trace.commands) : Notes before after attempts :=
  ⟨[], by rw [h, List.append_nil], List.nil_sublist _⟩

theorem takeReply_notes (command : Command) (r : Rehearsal) :
    Notes r (takeReply command r).2 [⟨command, (takeReply command r).1⟩] := by
  rcases r with ⟨_, isConnected, unread, _⟩
  cases unread with
  | some fault => exact .of_eq rfl
  | none =>
      cases isConnected with
      | false => exact .of_eq rfl
      | true => exact ⟨[command], rfl, List.Sublist.refl _⟩

theorem send_notes (command : Command) (r : Rehearsal) :
    Notes r (r.send command).2 [⟨command, (takeReply command r).1⟩] := by
  have learn_trace : ∀ (outcome : Except StorageFault Answer) (r : Rehearsal),
      (learn outcome r).2.trace = r.trace := by
    intro outcome r
    unfold learn
    split <;> rfl
  rw [send_eq, Notes, learn_trace]
  exact takeReply_notes command r

theorem release_notes (inTransaction : Bool) (r : Rehearsal) :
    Notes r (release inTransaction r) (r.attempted (.release inTransaction)) := by
  unfold release
  cases inTransaction with
  | false => exact .of_eq rfl
  | true =>
      cases hconnected : r.isConnected with
      | false => exact .of_eq rfl
      | true =>
          refine ⟨[.rollback], ?_, by simp [attempted, hconnected]⟩
          simp only [Bool.and_self, if_true]
          split <;> rfl

theorem commands_checkout (r : Rehearsal) : r.checkout.2.trace.commands = r.trace.commands := by
  unfold checkout
  split
  · rfl
  · split
    · rfl
    · split <;> rfl

theorem commands_announce (hook : Hook) (user : User) (r : Rehearsal) :
    (r.announce hook user).2.trace.commands = r.trace.commands := by
  unfold announce
  cases hook with
  | enqueue => cases r.queue.offer ⟨user.username⟩ <;> rfl
  | allow => rfl
  | refuse reason => rfl

theorem commands_deliver (message : Message) (r : Rehearsal) :
    (r.deliver message).2.trace.commands = r.trace.commands := by
  unfold deliver
  split <;> rfl

theorem surroundings_notes (action : Service.Action) (r : Rehearsal) :
    Notes r (surroundings action r).2 (r.attempted action) := by
  cases action with
  | checkout => exact .of_eq (commands_checkout r)
  | release inTransaction => exact release_notes inTransaction r
  | send command => exact send_notes command r
  | sendWithin statement patience =>
      simp only [surroundings, sendWithin_eq]
      split
      · exact takeReply_notes (.statement statement) r
      · exact send_notes (.statement statement) r
  | announce hook user => exact .of_eq (commands_announce hook user r)
  | clock => exact .of_eq rfl
  | salt =>
      simp only [surroundings]
      exact .of_eq rfl
  | codeDraws =>
      simp only [surroundings]
      exact .of_eq rfl
  | deliver message => exact .of_eq (commands_deliver message r)

/-- The commands that a run notes are among its attempts, in their order. -/
theorem run_notes (service : Service α) (r : Rehearsal) :
    Notes r (run service r).2 (attempts service r) := by
  induction service generalizing r with
  | done value => exact .of_eq rfl
  | ask action next ih =>
      obtain ⟨noted, hcommands, hnoted⟩ := surroundings_notes action r
      obtain ⟨noted', hcommands', hnoted'⟩ := ih (surroundings action r).1 (surroundings action r).2
      refine ⟨noted ++ noted', ?_, ?_⟩
      · rw [← List.append_assoc, ← hcommands]
        exact hcommands'
      · simpa only [attempts, List.map_append] using hnoted.append hnoted'

end Rehearsal

end Passbook
