import Passbook.Proofs.Concurrency.Requests
import Passbook.Proofs.Concurrency.Transfers
import Passbook.Proofs.Transaction.Currencies

/-!
# Currencies stay apart

Requests that open accounts and requests that move money are served at the same time, in any order of
their steps and with any failures. In everything that they can come to, the total of each currency is the
total of the opening balances of the accounts that were stored in it.

The currencies are compared before the transaction of a payment, on tables that others go on changing
meanwhile. This is enough: nothing that such requests can do takes an account away or gives it another
currency, so that what a payment has seen still holds when it takes effect.
-/
namespace Passbook

open Service (Action Event sent look Shows)
open Http (Request Response)
open Database (Opens)

/-- The account that a statement has opened. -/
def Deed.opened? (deed : Deed) : Option Account :=
  match deed.statement, deed.effect with
  | .insertAccount .., .put (.account account) => some account
  | _, _ => none

namespace Draft

def opened (draft : Draft) : List Account := draft.filterMap Deed.opened?

theorem opened_append (draft draft' : Draft) : opened (draft ++ draft') = draft.opened ++ draft'.opened :=
  List.filterMap_append

theorem opened_eq_nil {draft : Draft}
    (h : ∀ exchange ∈ draft.exchanges, ∀ owner balance currency,
      exchange.1 ≠ .insertAccount owner balance currency) : draft.opened = [] := by
  refine List.filterMap_eq_nil_iff.mpr fun deed hdeed => ?_
  have hstatement := h (deed.statement, deed.answer) (List.mem_map_of_mem hdeed)
  unfold Deed.opened?
  split
  · next owner balance currency _ heq _ => exact absurd heq (hstatement owner balance currency)
  · rfl

end Draft

/-- Whether what was shown of accounts still holds. -/
def UpToDate (db : Database) (past : List Event) : Prop :=
  ∀ id answer account, look id (.ok answer) ∈ past → Answer.one Account.ofRow answer = .ok account →
    account.title ∈ db.titles ∧ account.id = id

namespace UpToDate

variable {db db' : Database} {past : List Event}

theorem of_opens {opened : List Account} (h : UpToDate db past) (hopens : Opens opened db db') :
    UpToDate db' past := by
  intro id answer account hlook hread
  obtain ⟨htitle, hid⟩ := h id answer account hlook hread
  exact ⟨hopens.mem_titles htitle, hid⟩

/-- What a reply shows of an account holds when it is given. -/
theorem replied {taken : Key → Prop} {action : Action} {standing standing' : Standing}
    {answer : action.Answer} {committed? : Option Draft} (h : UpToDate db past)
    (hreplies : Replies db taken action standing answer standing' committed?) :
    UpToDate db (past ++ [⟨action, answer⟩]) := by
  intro id shown account hlook hread
  rcases List.mem_append.mp hlook with hlook | hlook
  · exact h id shown account hlook hread
  · rw [List.mem_singleton] at hlook
    cases hlook
    cases hreplies with
    | answered hanswers =>
        cases hanswers with
        | quiet _ hquiet => exact hquiet.elim
    | single hexecute =>
        have hfind := (Database.execute_selectAccount hexecute).2 account hread
        obtain ⟨hrow, hid⟩ := Table.find_eq_some.mp hfind
        exact ⟨List.mem_map_of_mem hrow, hid⟩

end UpToDate

namespace Payment.Books

variable {payment : Payment} {past : List Event} {draft : Draft} {db : Database}

/-- A payment that takes effect moves the money as it was asked for, and opens no account. -/
theorem moves (h : payment.Books past draft) (hreplays : draft.Replays db) :
    draft.opened = [] ∧ ∃ receipt, payment.order.Moves receipt db (db.after draft) := by
  obtain ⟨past', receipt, _, _, hready, hexchanges⟩ := h
  obtain ⟨_, hcourse⟩ := hready.course
  obtain ⟨_, log, hlog, hanswered⟩ := TransferOrder.admitted_course hcourse
  rw [hexchanges, Option.some.injEq] at hlog
  subst hlog
  constructor
  · refine Draft.opened_eq_nil fun exchange hexchange => ?_
    obtain ⟨_, _, _, _, _, heq, _⟩ := hanswered
    rw [heq] at hexchange
    simp only [List.mem_cons, List.not_mem_nil, or_false] at hexchange
    rcases hexchange with rfl | rfl | rfl | rfl | rfl <;> nofun
  · exact ⟨receipt, TransferOrder.moves_of_replays hanswered hreplays⟩

/-- Its accounts hold the same currency, as far as what they have shown still holds. -/
theorem titles (h : payment.Books past draft) (hshown : UpToDate db past) :
    ∃ source ∈ db.titles, ∃ target ∈ db.titles, source.id = payment.order.fromAccount ∧
      target.id = payment.order.toAccount ∧ source.currency = target.currency := by
  obtain ⟨past', _, hpast, ⟨earlier, outcome, hbegun, first, second, hsent, hfirst, hsecond⟩, _⟩ := h
  have hearlier : earlier <+: past := (List.prefix_append earlier _).trans (hbegun.trans hpast)
  have hlooks : ∀ event ∈ sent earlier, event ∈ past := fun event hevent =>
    hearlier.subset (List.mem_of_mem_filter hevent)
  rw [hsent] at hlooks
  obtain ⟨_, source, rfl, hsource, hheld⟩ := hfirst
  obtain ⟨_, target, rfl, htarget, hheld'⟩ := hsecond
  obtain ⟨hsource, hfrom⟩ := hshown _ _ source (hlooks _ List.mem_cons_self) hsource
  obtain ⟨htarget, hto⟩ := hshown _ _ target (hlooks _ (List.mem_cons_of_mem _ List.mem_cons_self)) htarget
  exact ⟨source.title, hsource, target.title, htarget, hfrom, hto, hheld.trans hheld'.symm⟩

end Payment.Books

/-- Whether an account was opened as a request has asked for it. -/
def Account.OpenedBy (account : Account) (request : Request) : Prop :=
  ∃ opening, request.Brings (.opening opening) ∧
    (account.owner, account.balance, account.currency) = (opening.owner, opening.balance, opening.currency)

/-- Whatever takes effect for a request opens what it has asked for and keeps currencies apart. -/
theorem Http.Request.Commits.opens {request : Request} {past : List Event} {db : Database} {draft : Draft}
    (h : request.Commits past db draft) (hshown : UpToDate db past) (hreplays : draft.Replays db) :
    Opens draft.opened db (db.after draft) ∧ ∀ account ∈ draft.opened, account.OpenedBy request := by
  cases h with
  | booked _ hbooks =>
      obtain ⟨hnone, receipt, hmoves⟩ := hbooks.moves hreplays
      obtain ⟨source, hsource, target, htarget, hfrom, hto, hcurrency⟩ := hbooks.titles hshown
      rw [hnone]
      exact ⟨hmoves.opens hsource htarget hfrom hto hcurrency, nofun⟩
  | single hasks hexecute =>
      rcases hasks.single with ⟨opening, hbrings, rfl⟩ | ⟨id, rfl⟩
      · obtain ⟨account, hfree, rfl, haccount⟩ := Database.execute_insertAccount hexecute
        refine ⟨Database.opens_put hfree, fun other hother => ?_⟩
        rw [List.mem_singleton.mp hother]
        exact ⟨opening, hbrings, haccount⟩
      · obtain ⟨rfl, _⟩ := Database.execute_selectAccount hexecute
        exact ⟨.of_same rfl, nofun⟩

namespace World

variable {ι : Type} {requests : ι → Request} {limits : ι → Nat} {w : World fun _ : ι => Response}

def opened (w : World fun _ : ι => Response) : List Account := Draft.opened (w.commits.flatMap (·.2))

structure Lawful (requests : ι → Request) (w : World fun _ : ι => Response) : Prop
    extends w.Undisturbed where
  session : ∀ i, (w.sessions i).Lawful (requests i)
  shown : ∀ i, UpToDate w.database (w.sessions i).past
  opens : Opens w.opened w.origin w.database
  opened : ∀ commit ∈ w.commits, ∀ account ∈ commit.2.opened, account.OpenedBy (requests commit.1)

/-- How the accounts follow from the opening ones and from those that were stored since: each currency
has the total of their opening balances, and each account is one of them. -/
structure Separated (requests : ι → Request) (opening : Database) (w : World fun _ : ι => Response) :
    Prop where
  totals : ∀ currency, totalIn currency w.database.accounts.rows =
    totalIn currency (opening.accounts.rows ++ w.opened)
  titles : w.database.titles = (opening.accounts.rows ++ w.opened).map Account.title
  opened : ∀ commit ∈ w.commits, ∀ account ∈ commit.2.opened, account.OpenedBy (requests commit.1)

namespace Lawful

theorem start (h : ∀ i, (requests i).IsPost "/api/v1/accounts" ∨ (requests i).IsPost "/api/v1/transfers")
    (origin : Database) :
    (World.start origin fun i => Http.attend (limits i) (requests i)).Lawful requests where
  toUndisturbed := .start origin _
  session i := .start (Http.attend_asks (limits i) (h i))
  shown _ := fun _ _ _ hlook => absurd hlook List.not_mem_nil
  opens := .of_same rfl
  opened := nofun

theorem separated (h : w.Lawful requests) : w.Separated requests w.origin where
  totals currency := by rw [h.opens.totals, totalIn_append, World.opened]
  titles := by rw [h.opens.titles, List.map_append, Database.titles, World.opened]
  opened := h.opened

variable [DecidableEq ι]

/-- A turn of one session keeps the world lawful if what takes effect is the session's own. -/
theorem become (h : w.Lawful requests) {i : ι} {session : Session Response} {committed? : Option Draft}
    (hundisturbed : (w.become i session committed?).Undisturbed)
    (hsession : session.Lawful (requests i)) (hshown : UpToDate w.database session.past)
    (hcommits : ∀ draft, committed? = some draft →
      (requests i).Commits (w.sessions i).past w.database draft) :
    (w.become i session committed?).Lawful requests := by
  have hopens : Opens (Draft.opened (committed?.getD [])) w.database
      (w.become i session committed?).database ∧
      ∀ account ∈ Draft.opened (committed?.getD []), account.OpenedBy (requests i) := by
    rw [become_database]
    cases committed? with
    | none => exact ⟨.of_same rfl, nofun⟩
    | some draft => exact (hcommits draft rfl).opens (h.shown i) hundisturbed.replays_committed
  have hcommits : (committed?.map fun draft => (i, draft)).toList.flatMap (·.2) = committed?.getD [] := by
    cases committed? <;> simp
  constructor
  case toUndisturbed => exact hundisturbed
  case session =>
    intro j
    by_cases hj : j = i
    · subst hj
      rw [become_sessions_self]
      exact hsession
    · rw [become_sessions_of_ne w hj]
      exact h.session j
  case shown =>
    intro j
    by_cases hj : j = i
    · subst hj
      rw [become_sessions_self]
      exact hshown.of_opens hopens.1
    · rw [become_sessions_of_ne w hj]
      exact (h.shown j).of_opens hopens.1
  case opens =>
    rw [World.opened, become_commits, List.flatMap_append, Draft.opened_append, hcommits]
    exact h.opens.trans hopens.1
  case opened =>
    intro commit hcommit account haccount
    rw [become_commits] at hcommit
    rcases List.mem_append.mp hcommit with hcommit | hcommit
    · exact h.opened commit hcommit account haccount
    · cases committed? with
      | none => cases hcommit
      | some draft =>
          cases List.mem_singleton.mp hcommit
          exact hopens.2 account haccount

theorem turn (h : w.Lawful requests) {w' : World fun _ : ι => Response} (hturn : Turn w w') :
    w'.Lawful requests := by
  cases hturn with
  | @replied i action next answer standing committed? hrest hreplies =>
      have hasks := (h.session i).keeps
      rw [hrest] at hasks
      obtain ⟨hsession, hcommits⟩ := (h.session i).replies hrest hreplies
      refine h.become ?_ hsession ((h.shown i).replied hreplies) hcommits
      refine h.toUndisturbed.replied hreplies rfl rfl ?_ ?_
      · rintro statement patience rfl
        exact hasks.1.steady
      · rintro statement rfl db stamp answer effect hexecute
        rcases hasks.1.single with ⟨opening, _, rfl⟩ | ⟨id, rfl⟩
        · obtain ⟨account, _, rfl, _⟩ := Database.execute_insertAccount hexecute
          exact Effect.put_ne_remove _
        · obtain ⟨rfl, _⟩ := Database.execute_selectAccount hexecute
          exact nofun
  | @drifted i standing committed? hdrifts =>
      obtain ⟨hsession, hcommits⟩ := (h.session i).drifts hdrifts
      exact h.become (h.toUndisturbed.drifts hdrifts) hsession (h.shown i) hcommits

/-- Everything that requests can come to is lawful. -/
theorem of_attains
    (h : ∀ i, (requests i).IsPost "/api/v1/accounts" ∨ (requests i).IsPost "/api/v1/transfers")
    {origin : Database}
    (hattains : Attains origin (fun i => Http.attend (limits i) (requests i)) w) : w.Lawful requests := by
  induction hattains with
  | refl => exact .start h origin
  | tail _ hturn ih => exact ih.turn hturn

end Lawful

end World

/-- BEGIN is sent for a payment only if both of its accounts were shown to hold its currency. So
whatever requests come to, however they are mixed and whatever fails, currencies stay apart. -/
theorem Http.payments_keep_currencies_apart :
    (∀ {σ : Type} (surroundings : (r : Action) → σ → r.Answer × σ) (state : σ) (limit : Nat)
      {request : Request}, request.IsPost "/api/v1/transfers" →
      Screens request ((respond limit request).history surroundings state)) ∧
    ∀ {ι : Type} [DecidableEq ι] {requests : ι → Request} {limits : ι → Nat} {opening : Database}
      {w : World fun _ : ι => Response},
      (∀ i, (requests i).IsPost "/api/v1/accounts" ∨ (requests i).IsPost "/api/v1/transfers") →
      World.Attains opening (fun i => attend (limits i) (requests i)) w →
      w.Separated requests opening := by
  constructor
  · intro σ surroundings state limit request hpost
    exact respond_screens surroundings state limit hpost
  · intro ι _ requests limits opening w hposts hattains
    have hlawful := World.Lawful.of_attains hposts hattains
    exact hattains.origin_eq ▸ hlawful.separated

namespace Http

/-- A request to pay 30 from the second account to the first. -/
def askedPayment : Request where
  method := "POST"
  target := "/api/v1/transfers"
  headers := [("content-type", "application/json")]
  body := Utf8.encode "[2,1,30,\"USD\"]".toList

/-- A database that shows two accounts and carries nothing else out. -/
def bothShown : Rehearsal where
  queue := ⟨1, [], true, Nat.one_pos, TaskQueue.oneTask_room⟩
  linkBase := ""
  cues := { replies := [2, 1].map fun id => { outcome := .ok ⟨[row id], 0⟩ } }
where
  row (id : Int) : Row :=
    Account.toRow { id, owner := "ann", balance := 100, currency := "USD", createdAt := ⟨0⟩ }

theorem attend_payment (limit : Nat) {request : Request} {payment : Payment}
    (hpost : request.IsPost "/api/v1/transfers") (hpayment : request.bodyRecord Payment.shape = .ok payment)
    (hcheck : payment.order.check = .ok ()) (hcurrency : Field.currency payment.currency = .ok ()) :
    attend limit request = payment.checkAccounts.bind fun
      | .error problem => .done (.ok problem.response)
      | .ok () => (atomically limit payment.order.script).bind fun
        | .error failure => .done (.ok (Problem.failed failure).response)
        | .ok receipt => .done (.ok (.json 201 receipt.json)) := by
  rw [attend, respond_eq_serve limit .createTransfer hpost.1 hpost.2 (by decide +kernel) (by decide), serve,
    hpayment]
  simp only [answered, Payment.execute, hcheck, hcurrency, Service.checked, Service.reported,
    TransferOrder.execute, Program.bind_eq, Program.bind_assoc]
  refine congrArg payment.checkAccounts.bind (funext fun result => ?_)
  cases result with
  | error problem => rfl
  | ok =>
      simp only [Program.bind_assoc]
      refine congrArg (Program.bind _) (funext fun result => ?_)
      cases result <;> rfl

theorem attend_opening (limit : Nat) {request : Request} {opening : AccountOpening}
    (hpost : request.IsPost "/api/v1/accounts")
    (hopening : request.bodyRecord AccountOpening.shape = .ok opening) (hcheck : opening.check = .ok ()) :
    attend limit request = (Service.onConnection (Service.query
        (.createAccount opening.owner opening.balance opening.currency))).bind fun
      | .error failure => .done (.ok (Problem.failed failure).response)
      | .ok account => .done (.ok (.json 201 account.json)) := by
  rw [attend, respond_eq_serve limit .createAccount hpost.1 hpost.2 (by decide +kernel) (by decide), serve,
    hopening]
  simp only [answered, AccountOpening.execute, hcheck, Service.checked, Service.reported, Service.pooled,
    Program.bind_eq, Program.bind_assoc]
  refine congrArg (Program.bind _) (funext fun result => ?_)
  cases result <;> rfl

/-- A request to open an account in another currency. -/
def askedOpening : Request where
  method := "POST"
  target := "/api/v1/accounts"
  headers := [("content-type", "application/json")]
  body := Utf8.encode "[\"ann\",\"EUR\",70]".toList

def askedBoth : Bool → Request
  | false => askedOpening
  | true => askedPayment

/-- The account is opened between what the payment looks at and its transaction. -/
theorem payments_keep_currencies_apart_paid :
    (askedBoth false).IsPost "/api/v1/accounts" ∧ (askedBoth true).IsPost "/api/v1/transfers" ∧
      Screens askedPayment ((respond 1000 askedPayment).history Rehearsal.surroundings bothShown) ∧
      (sent ((respond 1000 askedPayment).history Rehearsal.surroundings bothShown)).length = 6 ∧
      ∃ w : World fun _ : Bool => Response,
        World.Attains World.twoAccounts (fun i => attend 1000 (askedBoth i)) w ∧
        w.Separated askedBoth World.twoAccounts ∧
        w.database.accounts.rows.map (fun account => (account.balance, account.currency)) =
          [(130, "USD"), (20, "USD"), (70, "EUR")] := by
  have hopens : (askedBoth false).IsPost "/api/v1/accounts" := ⟨rfl, by decide +kernel⟩
  have hpays : (askedBoth true).IsPost "/api/v1/transfers" := ⟨rfl, by decide +kernel⟩
  have hscreens := payments_keep_currencies_apart.1 Rehearsal.surroundings bothShown 1000 hpays
  refine ⟨hopens, hpays, hscreens, by decide +kernel, ?_⟩
  have hopening : (askedBoth false).bodyRecord AccountOpening.shape = .ok ⟨"ann", "EUR", 70⟩ := by
    decide +kernel
  have hpayment : (askedBoth true).bodyRecord Payment.shape = .ok ⟨⟨2, 1, 30⟩, "USD"⟩ := by
    decide +kernel
  have hstart := World.Leads.start_turns World.twoAccounts fun i => attend 1000 (askedBoth i)
  have hpaying := hstart.single true
  rw [attend_payment 1000 hpays hpayment rfl rfl] at hpaying
  have hsource := (hpaying.heard (Except.ok ()) (.quiet _ trivial)).sent ⟨0, ⟨7⟩⟩ rfl (by decide)
  have htarget := hsource.sent ⟨0, ⟨7⟩⟩ rfl (by decide)
  have hbegun := (htarget.heard () (.quiet _ trivial)).begun
  have hother := hbegun.single false
  rw [Function.update_of_ne Bool.false_ne_true, attend_opening 1000 hopens hopening rfl] at hother
  have hopened := (hother.heard (Except.ok ()) (.quiet _ trivial)).sent ⟨3, ⟨8⟩⟩ rfl (by decide)
  have hclosed := hopened.heard () (.quiet _ trivial)
  have htransfer := (hclosed.single true).query ⟨1, ⟨9⟩⟩ 2 rfl rfl (by decide)
  have hfromEntry := htransfer.query ⟨1, ⟨9⟩⟩ 2 rfl rfl (by decide)
  have htoEntry := hfromEntry.query ⟨2, ⟨9⟩⟩ 2 rfl rfl (by decide)
  have hcredited := htoEntry.query ⟨0, ⟨9⟩⟩ 2 rfl rfl (by decide)
  have hdebited := hcredited.query ⟨0, ⟨9⟩⟩ 2 rfl rfl (by decide)
  obtain ⟨w, hattains, horigin, hcommits, _⟩ := hdebited.committed.pause
  have hposts : ∀ i, (askedBoth i).IsPost "/api/v1/accounts" ∨ (askedBoth i).IsPost "/api/v1/transfers" :=
    Bool.forall_bool.mpr ⟨.inl hopens, .inr hpays⟩
  refine ⟨w, hattains, payments_keep_currencies_apart.2 hposts hattains, ?_⟩
  rw [World.database, horigin, hcommits]
  rfl

end Http
end Passbook
