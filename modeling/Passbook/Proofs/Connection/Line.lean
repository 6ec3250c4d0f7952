import Passbook.Proofs.Connection.Grip
import Passbook.Rehearsal

/-!
# What is seen on a connection

A line is one pooled connection with a database behind it that may reply anything. What a service sends
is seen on the line only if it gets through: a fault that was left unread comes first, and nothing gets
through once the connection is lost. A new connection takes the place of one that is lost. A connection
that is given back with its transaction open is rolled back before anybody else uses it, or given up if
that fails.

A rehearsal is a line whose replies are laid down, and what is seen on the line are the commands that it
notes.
-/
namespace Passbook

open Service (Event Action)

inductive Signal where
  /-- a command that begins, sets up or ends a transaction, and whether it was acknowledged -/
  | control (command : Command) (acknowledged : Bool)
  /-- a statement on its own -/
  | single (statement : Statement)
  /-- a statement of a script -/
  | scripted (statement : Statement)
  | lost

namespace Signal

/-- What is seen of a command that is sent on its own. -/
def ofSend (command : Command) (outcome : Except StorageFault Answer) : Signal :=
  match command with
  | .statement statement => .single statement
  | command => .control command outcome.isOk

def command? : Signal → Option Command
  | .control command _ => some command
  | .single statement | .scripted statement => some (.statement statement)
  | .lost => none

theorem command?_ofSend (command : Command) (outcome : Except StorageFault Answer) :
    (ofSend command outcome).command? = some command := by
  cases command <;> rfl

end Signal

structure Line where
  isConnected : Bool
  unread : Option StorageFault

namespace Line

/-- What is seen after an outcome: the connection may be lost with a fault. -/
inductive Hears (line : Line) : Except StorageFault Answer → List Signal → Line → Prop
  | stays {outcome} : outcome ≠ .error .connectionLost → Hears line outcome [] line
  | lost (fault : StorageFault) : Hears line (.error fault) [.lost] { line with isConnected := false }

/-- What is seen of something that is sent, with its outcome; `signal` tells what it looks like. -/
inductive Carries (line : Line) (signal : Except StorageFault Answer → Signal) :
    Except StorageFault Answer → List Signal → Line → Prop
  | unread {fault signals line'} : line.unread = some fault →
      Hears { line with unread := none } (.error fault) signals line' →
      Carries line signal (.error fault) signals line'
  | unconnected (fault : StorageFault) : line.isConnected = false →
      Carries line signal (.error fault) [] line
  | carried {outcome signals line'} : line.unread = none → line.isConnected = true →
      Hears line outcome signals line' → Carries line signal outcome (signal outcome :: signals) line'

/-- What may be answered to a request, and what is seen of it. -/
inductive Serves (line : Line) : (action : Action) → action.Answer → List Signal → Line → Prop
  | reused : line.isConnected = true → Serves line .checkout (.ok ()) [] line
  | opened : line.isConnected = false → Serves line .checkout (.ok ()) [] { line with isConnected := true }
  | refused (fault : StorageFault) : Serves line .checkout (.error fault) [] line
  | send {command outcome signals line'} : line.Carries (Signal.ofSend command) outcome signals line' →
      Serves line (.send command) outcome signals line'
  | sendWithin {statement patience outcome signals line'} (after : Nat) :
      line.Carries (fun _ => .scripted statement) outcome signals line' →
      Serves line (.sendWithin statement patience) (.inTime after outcome) signals line'
  | overdue {statement patience} (unread : Option StorageFault) : line.unread = none →
      line.isConnected = true →
      Serves line (.sendWithin statement patience) .overdue [.scripted statement] { line with unread }
  | kept : Serves line (.release false) () [] { line with unread := none }
  | gone : line.isConnected = false → Serves line (.release true) () [] { line with unread := none }
  | undone : line.isConnected = true →
      Serves line (.release true) () [.control .rollback true] { line with unread := none }
  | abandoned : line.isConnected = true →
      Serves line (.release true) () [.control .rollback false, .lost] ⟨false, none⟩
  | clock (now : Instant) : Serves line .clock now [] line
  | announce {hook user} (said : Except String Unit) : Serves line (.announce hook user) said [] line
  | salt (bytes : List UInt8) : Serves line .salt bytes [] line
  | codeDraws (draws : List (Fin 62)) : Serves line .codeDraws draws [] line
  | deliver {message} (delivered : Except MailFault Unit) : Serves line (.deliver message) delivered [] line

/-- What may come of a service, and what is seen of it. -/
inductive Runs {α : Type} : Line → Service α → α → List Signal → Line → Prop
  | done {line value} : Runs line (.done value) value [] line
  | ask {line action next answer signals line' value later line''} :
      Serves line action answer signals line' → Runs line' (next answer) value later line'' →
      Runs line (.ask action next) value (signals ++ later) line''

end Line

namespace Rehearsal

open Line (Hears Carries Serves Runs)

def line (r : Rehearsal) : Line := ⟨r.isConnected, r.unread⟩

/-- Whether what is seen are the commands noted from `r` to `r'`. -/
def Shows (r : Rehearsal) (signals : List Signal) (r' : Rehearsal) : Prop :=
  r'.trace.commands = r.trace.commands ++ signals.filterMap Signal.command?

theorem learn_hears (outcome : Except StorageFault Answer) (r : Rehearsal) :
    ∃ signals, Hears r.line outcome signals (learn outcome r).2.line ∧ (learn outcome r).1 = outcome ∧
      Shows r signals (learn outcome r).2 := by
  unfold learn
  split
  · exact ⟨_, .lost _, rfl, by simp [Shows, Signal.command?]⟩
  · next hne => exact ⟨[], .stays hne, rfl, by simp [Shows]⟩

section Sending
variable {signal : Except StorageFault Answer → Signal} {r : Rehearsal}

/-- Whether an outcome may be that of something sent, and what is seen of it is noted. -/
def Heard (r : Rehearsal) (signal : Except StorageFault Answer → Signal)
    (heard : Except StorageFault Answer × Rehearsal) : Prop :=
  ∃ signals, Carries r.line signal heard.1 signals heard.2.line ∧ Shows r signals heard.2

/-- A fault that was left unread comes instead of what is to be sent. -/
theorem heard_unread {fault : StorageFault} (hunread : r.unread = some fault) :
    r.Heard signal (learn (.error fault) { r with unread := none }) := by
  obtain ⟨signals, hhears, houtcome, hshows⟩ := learn_hears (.error fault) { r with unread := none }
  rw [Heard, houtcome]
  exact ⟨signals, .unread hunread hhears, hshows⟩

theorem heard_unconnected (hdown : r.isConnected = false) :
    r.Heard signal (.error .connectionLost, r) :=
  ⟨[], .unconnected _ hdown, (List.append_nil _).symm⟩

theorem heard_exchange {command : Command} (hsignal : ∀ outcome, (signal outcome).command? = some command)
    (hunread : r.unread = none) (hup : r.isConnected = true) :
    r.Heard signal (learn (exchange command r).1.outcome (exchange command r).2) := by
  obtain ⟨signals, hhears, houtcome, hshows⟩ :=
    learn_hears (exchange command r).1.outcome (exchange command r).2
  rw [Heard, houtcome]
  refine ⟨_, .carried hunread hup hhears, ?_⟩
  rw [Shows, hshows, List.filterMap_cons_some (hsignal _), List.append_cons]
  rfl

theorem heard_send (command : Command) (r : Rehearsal) :
    r.Heard (Signal.ofSend command) (send command r) := by
  unfold send
  split
  · next hunread => exact heard_unread hunread
  · next hunread =>
    split
    · next hdown => exact heard_unconnected (by simpa using hdown)
    · next hup => exact heard_exchange (Signal.command?_ofSend command) hunread (by simpa using hup)

theorem sendWithin_serves (statement : Statement) (patience : Nat) (r : Rehearsal) :
    ∃ signals, Serves r.line (.sendWithin statement patience) (sendWithin statement patience r).1 signals
        (sendWithin statement patience r).2.line ∧
      Shows r signals (sendWithin statement patience r).2 := by
  unfold sendWithin
  split
  · next hunread =>
    obtain ⟨signals, hcarries, hshows⟩ : r.Heard (fun _ => .scripted statement) _ := heard_unread hunread
    exact ⟨signals, .sendWithin 0 hcarries, hshows⟩
  · next hunread =>
    split
    · next hdown =>
      have hdown : r.isConnected = false := by simpa using hdown
      obtain ⟨signals, hcarries, hshows⟩ : r.Heard (fun _ => .scripted statement) _ :=
        heard_unconnected hdown
      exact ⟨signals, .sendWithin 0 hcarries, hshows⟩
    · next hup =>
      have hup : r.isConnected = true := by simpa using hup
      dsimp only
      split
      · exact ⟨_, .overdue _ hunread hup, rfl⟩
      · have hsignal (outcome : Except StorageFault Answer) :
            ((fun _ => .scripted statement : Except StorageFault Answer → Signal) outcome).command? =
              some (.statement statement) := rfl
        obtain ⟨signals, hcarries, hshows⟩ := heard_exchange hsignal hunread hup
        exact ⟨signals, .sendWithin _ hcarries, hshows⟩

theorem checkout_serves (r : Rehearsal) :
    Serves r.line .checkout (checkout r).1 [] (checkout r).2.line ∧ Shows r [] (checkout r).2 := by
  unfold checkout
  split
  · exact ⟨.refused _, (List.append_nil _).symm⟩
  · split
    · next hup => exact ⟨.reused hup, (List.append_nil _).symm⟩
    · next hdown =>
      have hdown : r.isConnected = false := by simpa using hdown
      split
      · exact ⟨.opened hdown, (List.append_nil _).symm⟩
      · exact ⟨.refused _, (List.append_nil _).symm⟩

theorem release_serves (inTransaction : Bool) (r : Rehearsal) :
    ∃ signals, Serves r.line (.release inTransaction) () signals (release inTransaction r).line ∧
      Shows r signals (release inTransaction r) := by
  cases inTransaction with
  | false => exact ⟨[], .kept, (List.append_nil _).symm⟩
  | true =>
      unfold release
      by_cases hup : r.isConnected = true
      · rw [if_pos (by rw [hup]; rfl)]
        dsimp only
        split
        · exact ⟨_, .undone hup, rfl⟩
        · exact ⟨_, .abandoned hup, rfl⟩
      · have hdown : r.isConnected = false := by simpa using hup
        rw [if_neg (by simp [hup])]
        exact ⟨[], .gone hdown, (List.append_nil _).symm⟩

theorem serves_draw {action : Action} {answer : action.Answer} (chance : Chance)
    (h : Serves r.line action answer [] r.line) :
    ∃ signals, Serves r.line action answer signals ({ r with chance } : Rehearsal).line ∧
      Shows r signals { r with chance } :=
  ⟨[], h, (List.append_nil _).symm⟩

/-- A rehearsal answers as a line, and notes the commands that are seen on it. -/
theorem surroundings_serves (action : Action) (r : Rehearsal) :
    ∃ signals, Serves r.line action (surroundings action r).1 signals (surroundings action r).2.line ∧
      Shows r signals (surroundings action r).2 := by
  cases action with
  | checkout => exact ⟨[], checkout_serves r⟩
  | release inTransaction => exact release_serves inTransaction r
  | send command =>
      obtain ⟨signals, hcarries, hshows⟩ := heard_send command r
      exact ⟨signals, .send hcarries, hshows⟩
  | sendWithin statement patience => exact sendWithin_serves statement patience r
  | clock => exact ⟨[], .clock _, (List.append_nil _).symm⟩
  | announce hook user =>
      cases hook with
      | enqueue =>
          simp only [surroundings, announce]
          split <;> exact ⟨[], .announce _, (List.append_nil _).symm⟩
      | allow => exact ⟨[], .announce _, (List.append_nil _).symm⟩
      | refuse reason => exact ⟨[], .announce _, (List.append_nil _).symm⟩
  | salt =>
      have hsalt : surroundings .salt r = ((r.chance.bytes 16).1, { r with
        chance := (r.chance.bytes 16).2 }) := rfl
      rw [hsalt]
      exact serves_draw _ (.salt _)
  | codeDraws =>
      have hdraws : surroundings .codeDraws r = ((r.chance.codeDraws Verification.codeLength).1, { r with
        chance := (r.chance.codeDraws Verification.codeLength).2 }) := rfl
      rw [hdraws]
      exact serves_draw _ (.codeDraws _)
  | deliver message =>
      simp only [surroundings, deliver]
      split <;> exact ⟨[], .deliver _, (List.append_nil _).symm⟩

end Sending

theorem run_runs {α : Type} (p : Service α) (r : Rehearsal) :
    ∃ signals, Runs r.line p (run p r).1 signals (run p r).2.line ∧ Shows r signals (run p r).2 := by
  unfold run
  induction p generalizing r with
  | done value => exact ⟨[], .done, (List.append_nil _).symm⟩
  | ask action next ih =>
      obtain ⟨signals, hserves, hshows⟩ := surroundings_serves action r
      obtain ⟨later, hruns, hlater⟩ := ih (surroundings action r).1 (surroundings action r).2
      refine ⟨signals ++ later, .ask hserves hruns, ?_⟩
      rw [Shows, List.filterMap_append, ← List.append_assoc, ← hshows]
      exact hlater

end Rehearsal

end Passbook
