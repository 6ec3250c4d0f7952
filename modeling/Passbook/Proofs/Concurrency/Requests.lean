import Passbook.Proofs.Concurrency.Serial
import Passbook.Proofs.Concurrency.Stages
import Passbook.Proofs.Http.Screening

/-!
# Many requests at once

Any number of requests to open accounts and to move money are served at the same time. What the database
does for them is what it does for transactions, and two things more: a statement that is sent outside of
a transaction takes effect at once, whether or not its answer is heard, and a connection that was lost is
replaced by another one at the next checkout.

What takes effect for a request is then one of two things: the single statement that it has just sent,
or the whole transaction of its payment, whose accounts were looked at before.
-/
namespace Passbook

open Service (Action Event heard transcript Uncommitted)
open Http (Request Response respond)

/-- What may be answered to the service of a request, what becomes of its connection, and which changes
take effect. -/
inductive Replies (db : Database) (taken : Key → Prop) :
    (action : Action) → Standing → action.Answer → Standing → Option Draft → Prop
  | answered {action standing answer standing' committed?} :
      Answers db taken action standing answer standing' committed? →
      Replies db taken action standing answer standing' committed?
  /-- A statement outside of a transaction takes effect at once. -/
  | single {statement stamp answer effect} : db.execute stamp statement = .ok (answer, effect) →
      (∀ key, effect.key? = some key → ¬taken key) →
      Replies db taken (.send (.statement statement)) .idle (.ok answer) .idle
        (some [⟨statement, answer, effect⟩])
  /-- It takes effect, but its answer is lost. -/
  | unheard {statement stamp answer effect standing} (fault : StorageFault) :
      db.execute stamp statement = .ok (answer, effect) →
      (∀ key, effect.key? = some key → ¬taken key) → Standing.Spoils .idle standing →
      Replies db taken (.send (.statement statement)) .idle (.error fault) standing
        (some [⟨statement, answer, effect⟩])
  /-- A lost connection is replaced. -/
  | renewed : Replies db taken .checkout (.lost []) (.ok ()) .idle none

/-- The service of a request. It ends with a response, whatever fails. -/
def Http.attend (limit : Nat) (request : Request) : Service (Except Failure Response) :=
  (respond limit request).bind fun response => .done (.ok response)

namespace World

variable {ι : Type} [DecidableEq ι] {α : ι → Type}

inductive Turn : World α → World α → Prop
  | replied {w : World α} {i : ι} {action next answer standing committed?} :
      (w.sessions i).rest = .ask action next →
      Replies w.database (w.taken i) action (w.sessions i).standing answer standing committed? →
      Turn w (w.become i ⟨next answer, (w.sessions i).past ++ [⟨action, answer⟩], standing⟩ committed?)
  | drifted {w : World α} {i : ι} {standing committed?} :
      Drifts (w.taken i) (w.sessions i).standing standing committed? →
      Turn w (w.become i { w.sessions i with standing } committed?)

/-- Everything that services which also send single statements can come to. -/
def Attains (origin : Database) (services : (i : ι) → Service (Except Failure (α i)))
    (w : World α) : Prop :=
  Relation.ReflTransGen Turn (start origin services) w

theorem Attains.origin_eq {origin : Database} {services : (i : ι) → Service (Except Failure (α i))}
    {w : World α} (h : Attains origin services w) : w.origin = origin := by
  induction h with
  | refl => rfl
  | tail _ hturn ih => cases hturn <;> exact ih

variable {w : World α}

/-- A single statement that does not delete anything disturbs nobody. -/
theorem Admissible.single {db : Database} {taken : Key → Prop} {statement : Statement} {stamp : Stamp}
    {answer : Answer} {effect : Effect} (hexecute : db.execute stamp statement = .ok (answer, effect))
    (hfree : ∀ key, effect.key? = some key → ¬taken key) (hadds : ∀ key, effect ≠ .remove key) :
    Admissible db taken [⟨statement, answer, effect⟩] where
  replays := ⟨.inr ⟨stamp, hexecute⟩, trivial⟩
  adds deed hdeed := by
    rw [List.mem_singleton.mp hdeed]
    exact hadds
  free key hkey := by
    obtain ⟨deed, hdeed, heq⟩ := Draft.mem_keys.mp hkey
    rw [List.mem_singleton] at hdeed
    subst hdeed
    exact hfree key heq

/-- A turn of a session that has no open transaction and holds no row afterwards. -/
theorem Undisturbed.single (h : w.Undisturbed) {i : ι} {session : Session (α i)} {draft : Draft}
    (hstanding : Standing.Spoils .idle session.standing)
    (hadmissible : Admissible w.database (w.taken i) draft) :
    (w.become i session (some draft)).Undisturbed := by
  have hnothing : session.standing.held = [] ∧ session.standing.draft? = none := by
    generalize session.standing = standing at hstanding
    cases hstanding <;> exact ⟨rfl, rfl⟩
  refine h.become (fun key hkey => ?_) (fun draft hdraft => ?_) fun committed heq => ?_
  · rw [hnothing.1] at hkey
    cases hkey
  · rw [hnothing.2] at hdraft
    cases hdraft
  · cases heq
    exact hadmissible

theorem Undisturbed.replied (h : w.Undisturbed) {i : ι} {action : Action} {answer : action.Answer}
    {session : Session (α i)} {standing standing' : Standing} {committed? : Option Draft}
    (hreplies : Replies w.database (w.taken i) action standing answer standing' committed?)
    (hstanding : (w.sessions i).standing = standing) (hstanding' : session.standing = standing')
    (hsteady : ∀ statement patience, action = .sendWithin statement patience → statement.Steady)
    (hadds : ∀ statement, action = .send (.statement statement) →
      ∀ (db : Database) (stamp : Stamp) (answer : Answer) (effect : Effect),
        db.execute stamp statement = .ok (answer, effect) → ∀ key, effect ≠ .remove key) :
    (w.become i session committed?).Undisturbed := by
  cases hreplies with
  | answered hanswers =>
      subst hstanding hstanding'
      exact h.answers hanswers hsteady
  | single hexecute hfree =>
      refine h.single (hstanding' ▸ .same) (.single hexecute hfree ?_)
      exact hadds _ rfl _ _ _ _ hexecute
  | unheard fault hexecute hfree hspoils =>
      refine h.single (hstanding' ▸ hspoils) (.single hexecute hfree ?_)
      exact hadds _ rfl _ _ _ _ hexecute
  | renewed =>
      refine h.become (fun key hkey => ?_) (fun draft hdraft => ?_) nofun
      · rw [hstanding'] at hkey
        cases hkey
      · rw [hstanding'] at hdraft
        cases hdraft

end World

namespace Http.Request.Asks

variable {request : Request} {past : List Event} {statement : Statement}

theorem steady {patience : Nat} (h : request.Asks past (.sendWithin statement patience)) :
    statement.Steady := by
  obtain ⟨errand, _, hasks⟩ := h
  cases errand with
  | opening opening => cases hasks
  | payment payment => exact AskedInOrder.steady payment.order.admitted_reliable hasks.2

theorem single (h : request.Asks past (.send (.statement statement))) :
    (∃ opening, request.Brings (.opening opening) ∧
      statement = .insertAccount opening.owner opening.balance opening.currency) ∨
    ∃ id, statement = .selectAccount id := by
  obtain ⟨errand, hbrings, hasks⟩ := h
  cases errand with
  | opening opening =>
      cases hasks
      exact .inl ⟨opening, hbrings, rfl⟩
  | payment payment =>
      rcases hasks with ⟨_, rfl⟩ | ⟨_, _, _, rfl⟩
      · exact .inr ⟨_, rfl⟩
      · exact .inr ⟨_, rfl⟩

end Http.Request.Asks

theorem Http.attend_asks (limit : Nat) {request : Request}
    (h : request.IsPost "/api/v1/accounts" ∨ request.IsPost "/api/v1/transfers") :
    (attend limit request).Keeps request.Asks (fun _ _ => True) [] := by
  refine (Program.keeps_bind _ _).mpr ?_
  rcases h with hpost | hpost
  · exact (respond_opening_asks limit hpost).mono (fun _ _ h => h) fun _ _ _ => trivial
  · exact (respond_payment_asks limit hpost).mono (fun _ _ h => h) fun _ _ _ => trivial

namespace Payment

/-- Whether a draft is the whole transaction of a payment, whose accounts were looked at before. -/
def Books (payment : Payment) (past : List Event) (draft : Draft) : Prop :=
  ∃ past' value, past' <+: past ∧ payment.Begun past' ∧ Ready payment.order.admitted value past' ∧
    Script.exchanges (heard past') = some draft.exchanges

theorem Books.append {payment : Payment} {past : List Event} {draft : Draft} (h : payment.Books past draft)
    (later : List Event) : payment.Books (past ++ later) draft := by
  obtain ⟨past', value, hprefix, hbooked⟩ := h
  exact ⟨past', value, hprefix.trans (List.prefix_append _ _), hbooked⟩

end Payment

/-- What may take effect for a request that has come so far. -/
inductive Http.Request.Commits (request : Request) (past : List Event) (db : Database) : Draft → Prop
  | single {statement stamp answer effect} : request.Asks past (.send (.statement statement)) →
      db.execute stamp statement = .ok (answer, effect) →
      Commits request past db [⟨statement, answer, effect⟩]
  | booked {payment draft} : request.Brings (.payment payment) → payment.Books past draft →
      Commits request past db draft

/-- A session that serves a request. -/
structure Session.Lawful (request : Request) (session : Session Response) : Prop where
  keeps : session.rest.Keeps request.Asks (fun _ _ => True) session.past
  tallies : Tallies session.past session.standing
  doubt : ∀ draft, session.standing = .inDoubt draft →
    ∃ payment, request.Brings (.payment payment) ∧ payment.Books session.past draft

namespace Session.Lawful

variable {request : Request} {session : Session Response} {db : Database} {taken : Key → Prop}
  {action : Action} {next : action.Answer → Service (Except Failure Response)} {answer : action.Answer}
  {standing : Standing} {committed? : Option Draft}

theorem start {service : Service (Except Failure Response)}
    (h : service.Keeps request.Asks (fun _ _ => True) []) : Session.Lawful request { rest := service } where
  keeps := h
  tallies := .of_none rfl
  doubt := nofun

/-- When COMMIT is asked for, the open transaction is that of the payment. -/
theorem books (h : session.Lawful request) (hasks : request.Asks session.past (.send .commit)) :
    ∃ payment, request.Brings (.payment payment) ∧
      ((∃ draft, session.standing = .active draft ∧ payment.Books session.past draft) ∨
        ∃ held, session.standing = .lost held) := by
  obtain ⟨errand, hbrings, hasks⟩ := hasks
  cases errand with
  | opening opening => cases hasks
  | payment payment =>
      obtain ⟨hbegun, value, hready⟩ := hasks
      obtain ⟨millis, hcourse⟩ := hready.course
      obtain ⟨log, hlog⟩ := payment.order.admitted_reliable.answered hcourse
      refine ⟨payment, hbrings, ?_⟩
      rcases h.tallies log (hready.transcript_eq.trans hlog) with ⟨draft, hactive, rfl⟩ | hlost
      · exact .inl ⟨draft, hactive, session.past, value, List.prefix_rfl, hbegun, hready, hlog⟩
      · exact .inr hlost

/-- What is left in doubt, or takes effect, by an answer is what the request has booked. -/
theorem answered_books (h : session.Lawful request) (hasks : request.Asks session.past action)
    (hanswers : Answers db taken action session.standing answer standing committed?) {draft : Draft}
    (hdraft : standing = .inDoubt draft ∨ committed? = some draft) :
    ∃ payment, request.Brings (.payment payment) ∧ payment.Books session.past draft := by
  by_cases hcommit : action = .send .commit
  · subst hcommit
    obtain ⟨payment, hbrings, hstanding⟩ := h.books hasks
    generalize hold : session.standing = old at hanswers hstanding
    refine ⟨payment, hbrings, ?_⟩
    cases hanswers with
    | quiet _ hquiet => exact hquiet.elim
    | committed =>
        rcases hstanding with ⟨_, heq, hbooks⟩ | ⟨_, heq⟩ <;> cases heq
        rcases hdraft with heq | heq <;> cases heq
        exact hbooks
    | uncertain =>
        rcases hstanding with ⟨_, heq, hbooks⟩ | ⟨_, heq⟩ <;> cases heq
        rcases hdraft with heq | heq <;> cases heq
        exact hbooks
    | void => rcases hdraft with heq | heq <;> cases heq
    | refused _ hactive hspoils =>
        -- A COMMIT that is refused leaves in doubt what was in doubt before, which nothing was.
        rcases hdraft with rfl | heq
        · cases (hspoils.isInDoubt ⟨draft, rfl⟩)
          rcases hstanding with ⟨_, heq, _⟩ | ⟨_, heq⟩ <;> cases heq
        · cases heq
  · obtain ⟨rfl, hdoubt⟩ := hanswers.of_ne_commit hcommit
    rcases hdraft with rfl | heq
    · exact h.doubt draft (hdoubt ⟨draft, rfl⟩).symm
    · cases heq

/-- A reply keeps a session lawful, and what takes effect with it is the request's own. -/
theorem replies (h : session.Lawful request) (hrest : session.rest = .ask action next)
    (hreplies : Replies db taken action session.standing answer standing committed?) :
    Session.Lawful request ⟨next answer, session.past ++ [⟨action, answer⟩], standing⟩ ∧
      ∀ draft, committed? = some draft → request.Commits session.past db draft := by
  have hkeeps := h.keeps
  rw [hrest] at hkeeps
  obtain ⟨hasks, hnext⟩ := hkeeps
  generalize hold : session.standing = old at hreplies
  cases hreplies with
  | answered hanswers =>
      subst hold
      refine ⟨⟨hnext answer, h.tallies.answers hanswers, fun draft hdraft => ?_⟩, fun draft hdraft => ?_⟩
      · obtain ⟨payment, hbrings, hbooks⟩ := h.answered_books hasks hanswers (.inl hdraft)
        exact ⟨payment, hbrings, hbooks.append _⟩
      · obtain ⟨payment, hbrings, hbooks⟩ := h.answered_books hasks hanswers (.inr hdraft)
        exact .booked hbrings hbooks
  | single hexecute =>
      refine ⟨⟨hnext _, .of_none (Service.transcript_append_singleton _ _), nofun⟩, ?_⟩
      rintro draft ⟨⟩
      exact .single hasks hexecute
  | unheard fault hexecute _ hspoils =>
      refine ⟨⟨hnext _, .of_none (Service.transcript_append_singleton _ _), fun draft hdraft => ?_⟩, ?_⟩
      · subst hdraft
        cases hspoils.isInDoubt ⟨draft, rfl⟩
      · rintro draft ⟨⟩
        exact .single hasks hexecute
  | renewed => exact ⟨⟨hnext _, .of_none (Service.transcript_append_singleton _ _), nofun⟩, nofun⟩

theorem drifts (h : session.Lawful request) (hdrifts : Drifts taken session.standing standing committed?) :
    Session.Lawful request { session with standing } ∧
      ∀ draft, committed? = some draft → request.Commits session.past db draft := by
  have htallies := h.tallies.drifts hdrifts
  generalize hold : session.standing = old at hdrifts
  refine ⟨⟨h.keeps, htallies, fun draft hdraft => ?_⟩, fun draft hdraft => ?_⟩
  · cases hdrifts <;> cases hdraft
  · cases hdrifts with
    | applied =>
        cases hdraft
        obtain ⟨payment, hbrings, hbooks⟩ := h.doubt draft hold
        exact .booked hbrings hbooks
    | _ => cases hdraft

end Session.Lawful

namespace World.Leads

variable {ι : Type} [DecidableEq ι] {α : ι → Type} {origin : Database} {v : World α} {poses : Poses α}
  {commits : List (ι × Draft)} {i : ι}

/-- Services that also send single statements take all steps of transactions. -/
theorem start_turns (origin : Database) (services : (i : ι) → Service (Except Failure (α i))) :
    Leads Turn origin (World.start origin services) (fun i => (services i, .idle)) [] := by
  refine .start (fun w w' hstep => ?_) origin services
  cases hstep with
  | answered hrest hanswers => exact .replied hrest (.answered hanswers)
  | drifted hdrifts => exact .drifted hdrifts

theorem sent {statement : Statement} {next : Except StorageFault Answer → Service (Except Failure (α i))}
    {answer : Answer} {effect : Effect}
    (h : Leads Turn origin v (Function.update poses i (.ask (.send (.statement statement)) next, .idle))
      commits)
    (stamp : Stamp)
    (hexecute : (origin.after (commits.flatMap (·.2))).execute stamp statement = .ok (answer, effect))
    (hfree : ∀ key ∈ effect.key?, ¬poses.Taken i key) :
    Leads Turn origin v (Function.update poses i (next (.ok answer), .idle))
      (commits ++ [(i, [⟨statement, answer, effect⟩])]) := by
  have hmoves : ∀ w : World α, (w.sessions i).rest = .ask (.send (.statement statement)) next →
      (w.sessions i).standing = .idle → w.database = origin.after (commits.flatMap (·.2)) →
      w.taken i = poses.Taken i → Turn w (w.become i ⟨next (.ok answer), (w.sessions i).past ++
        [⟨.send (.statement statement), Except.ok answer⟩], .idle⟩ (some [⟨statement, answer, effect⟩])) := by
    intro w hrest hstanding hdatabase htaken
    apply Turn.replied hrest
    rw [hstanding, hdatabase, htaken]
    exact .single hexecute hfree
  exact h.moved (Except.ok answer) hmoves

end World.Leads

end Passbook
