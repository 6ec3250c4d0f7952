import Passbook.Proofs.Database.Draft
import Passbook.Proofs.Transaction.Contract

/-!
# Many transactions at once

Any number of services run at the same time against one database, each on a connection of its own.
What the database does for a connection is a relation: a statement is carried out on what has been
committed by then together with the changes of its own transaction, as soon as no other transaction
holds the row that it is about; the changes take effect for others all together when COMMIT does.
Everything may fail at any time: a statement may be refused, carried out without its answer being
heard, or come too late; a connection may be lost; COMMIT may fail and take effect all the same, at once
or later, or never.

Nothing is assumed of the order of the steps, of limits, or of how long anything takes.
-/
namespace Passbook

/-- What the database keeps for one connection. -/
inductive Standing where
  /-- no transaction is open -/
  | idle
  | active (draft : Draft)
  /-- the transaction can only be undone -/
  | doomed (held : List Key)
  /-- COMMIT was asked for, and the database has not settled yet whether it takes effect -/
  | inDoubt (draft : Draft)
  /-- the connection is lost, which the database need not have noticed -/
  | lost (held : List Key)

namespace Standing

def held : Standing → List Key
  | .idle => []
  | .active draft | .inDoubt draft => draft.keys
  | .doomed held | .lost held => held

/-- The changes that may still take effect. -/
def draft? : Standing → Option Draft
  | .active draft | .inDoubt draft => some draft
  | .idle | .doomed _ | .lost _ => none

def IsInDoubt (standing : Standing) : Prop := ∃ draft, standing = .inDoubt draft

/-- Whether ROLLBACK can be answered. -/
def IsUp : Standing → Prop
  | .idle | .active _ | .doomed _ => True
  | .inDoubt _ | .lost _ => False

/-- What a fault or a missing answer may leave behind. -/
inductive Spoils (standing : Standing) : Standing → Prop
  | same : Spoils standing standing
  | doomed : Spoils standing (.doomed standing.held)
  | lost : Spoils standing (.lost standing.held)

end Standing

/-- Whether a request does not concern the transaction on the connection. -/
def Service.Action.IsQuiet : Service.Action → Prop
  | .send _ | .sendWithin .. => False
  | _ => True

/-- What may be answered to a request, what becomes of the connection, and which changes take effect.
`db` is what has been committed, and `taken` tells the rows that other transactions hold. -/
inductive Answers (db : Database) (taken : Key → Prop) :
    (action : Service.Action) → Standing → action.Answer → Standing → Option Draft → Prop
  | quiet {action standing} (answer : action.Answer) :
      action.IsQuiet → Answers db taken action standing answer standing none
  | begun (answer : Answer) : Answers db taken (.send .begin) .idle (.ok answer) (.active []) none
  | limited {millis draft} (answer : Answer) :
      Answers db taken (.send (.limit millis)) (.active draft) (.ok answer) (.active draft) none
  | executed {statement patience draft stamp answer effect} (after : Nat) :
      (db.after draft).execute stamp statement = .ok (answer, effect) →
      (∀ key, effect.key? = some key → ¬taken key) →
      Answers db taken (.sendWithin statement patience) (.active draft) (.inTime after (.ok answer))
        (.active (draft ++ [⟨statement, answer, effect⟩])) none
  /-- The statement is carried out, but its answer is lost. -/
  | unheard {statement patience draft stamp answer effect} (after : Nat) (fault : StorageFault) :
      (db.after draft).execute stamp statement = .ok (answer, effect) →
      (∀ key, effect.key? = some key → ¬taken key) →
      Answers db taken (.sendWithin statement patience) (.active draft) (.inTime after (.error fault))
        (.active (draft ++ [⟨statement, answer, effect⟩])) none
  | failed {statement patience standing standing'} (after : Nat) (fault : StorageFault) :
      standing.Spoils standing' →
      Answers db taken (.sendWithin statement patience) standing (.inTime after (.error fault)) standing'
        none
  | overdue {statement patience standing standing'} :
      standing.Spoils standing' →
      Answers db taken (.sendWithin statement patience) standing .overdue standing' none
  | committed {draft} (answer : Answer) :
      Answers db taken (.send .commit) (.active draft) (.ok answer) .idle (some draft)
  | uncertain {draft} (fault : StorageFault) :
      Answers db taken (.send .commit) (.active draft) (.error fault) (.inDoubt draft) none
  /-- COMMIT of a transaction that has failed ends it, and nothing takes effect. -/
  | void {held} (answer : Answer) :
      Answers db taken (.send .commit) (.doomed held) (.ok answer) .idle none
  | undone {standing} (answer : Answer) :
      standing.IsUp → Answers db taken (.send .rollback) standing (.ok answer) .idle none
  | refused {command standing standing'} (fault : StorageFault) :
      (∀ draft, standing = .active draft → command ≠ .commit) → standing.Spoils standing' →
      Answers db taken (.send command) standing (.error fault) standing' none

/-- What may happen to a connection without a request. -/
inductive Drifts (taken : Key → Prop) : Standing → Standing → Option Draft → Prop
  | lost {standing} : ¬standing.IsInDoubt → Drifts taken standing (.lost standing.held) none
  | noticed {held} : Drifts taken (.lost held) (.lost []) none
  /-- A statement that came too late still takes its row. -/
  | late {held key} : ¬taken key → Drifts taken (.doomed held) (.doomed (key :: held)) none
  | applied {draft} : Drifts taken (.inDoubt draft) .idle (some draft)
  | dropped {draft} : Drifts taken (.inDoubt draft) .idle none

/-- A service that runs, with what it has heard so far and its connection. -/
structure Session (α : Type) where
  rest : Service (Except Failure α)
  past : List Service.Event := []
  standing : Standing := .idle

/-- The services that run at the same time, and whose changes took effect, in this order, on what there
was in the beginning. -/
structure World {ι : Type} (α : ι → Type) where
  origin : Database
  commits : List (ι × Draft) := []
  sessions : (i : ι) → Session (α i)

namespace World

variable {ι : Type} {α : ι → Type}

def database (w : World α) : Database := w.origin.after (w.commits.flatMap (·.2))

/-- Whether another transaction than that of `i` holds a row. -/
def taken (w : World α) (i : ι) (key : Key) : Prop := ∃ j, j ≠ i ∧ key ∈ (w.sessions j).standing.held

variable [DecidableEq ι]

/-- The world with another session of `i`, and with changes of it that take effect. -/
def become (w : World α) (i : ι) (session : Session (α i)) (committed? : Option Draft) : World α where
  origin := w.origin
  commits := w.commits ++ (committed?.map fun draft => (i, draft)).toList
  sessions := Function.update w.sessions i session

inductive Step : World α → World α → Prop
  | answered {w : World α} {i : ι} {action next answer standing committed?} :
      (w.sessions i).rest = .ask action next →
      Answers w.database (w.taken i) action (w.sessions i).standing answer standing committed? →
      Step w (w.become i ⟨next answer, (w.sessions i).past ++ [⟨action, answer⟩], standing⟩ committed?)
  | drifted {w : World α} {i : ι} {standing committed?} :
      Drifts (w.taken i) (w.sessions i).standing standing committed? →
      Step w (w.become i { w.sessions i with standing } committed?)

def start (origin : Database) (services : (i : ι) → Service (Except Failure (α i))) : World α where
  origin := origin
  sessions i := { rest := services i }

/-- Everything that the services can come to, in any order of steps. -/
def Reaches (origin : Database) (services : (i : ι) → Service (Except Failure (α i)))
    (w : World α) : Prop :=
  Relation.ReflTransGen Step (start origin services) w

theorem Reaches.origin_eq {origin : Database} {services : (i : ι) → Service (Except Failure (α i))}
    {w : World α} (h : Reaches origin services w) : w.origin = origin := by
  induction h with
  | refl => rfl
  | tail _ hstep ih => cases hstep <;> exact ih

/-- The drafts of one session that took effect. -/
def draftsOf (w : World α) (i : ι) : List Draft :=
  (w.commits.filter fun commit => commit.1 = i).map (·.2)

theorem Step.become_eq {w w' : World α} (h : Step w w') :
    ∃ i session committed?, w' = w.become i session committed? := by
  cases h with
  | answered => exact ⟨_, _, _, rfl⟩
  | drifted => exact ⟨_, _, _, rfl⟩

theorem become_commits (w : World α) (i : ι) (session : Session (α i)) (committed? : Option Draft) :
    (w.become i session committed?).commits =
      w.commits ++ (committed?.map fun draft => (i, draft)).toList := rfl

@[simp] theorem become_sessions_self (w : World α) (i : ι) (session : Session (α i))
    (committed? : Option Draft) : (w.become i session committed?).sessions i = session :=
  Function.update_self ..

@[simp] theorem become_sessions_of_ne (w : World α) {i j : ι} (h : j ≠ i) (session : Session (α i))
    (committed? : Option Draft) : (w.become i session committed?).sessions j = w.sessions j :=
  Function.update_of_ne h ..

theorem become_database (w : World α) (i : ι) (session : Session (α i)) (committed? : Option Draft) :
    (w.become i session committed?).database = w.database.after (committed?.getD []) := by
  cases committed? with
  | none => simp [become, database]
  | some draft => simp [become, database]

theorem become_draftsOf_self (w : World α) (i : ι) (session : Session (α i)) (committed? : Option Draft) :
    (w.become i session committed?).draftsOf i = w.draftsOf i ++ committed?.toList := by
  cases committed? with
  | none => simp [become, draftsOf]
  | some draft => simp [become, draftsOf]

theorem become_draftsOf_of_ne (w : World α) {i j : ι} (h : j ≠ i) (session : Session (α i))
    (committed? : Option Draft) : (w.become i session committed?).draftsOf j = w.draftsOf j := by
  cases committed? with
  | none => simp [become, draftsOf]
  | some draft => simp [become, draftsOf, Ne.symm h]

end World

end Passbook
