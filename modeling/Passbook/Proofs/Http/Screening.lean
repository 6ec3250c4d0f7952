import Passbook.Proofs.Http.CommitReport
import Passbook.Proofs.Transaction.MoveMoney

/-!
# What is looked at before money is moved

A payment names a currency, and the transaction that moves the money never asks for it. What keeps
currencies apart is done before: both accounts are looked at, first the one that pays, and BEGIN is sent
only if both were shown to hold the currency of the payment. Until then nothing but these two looks is
sent.

A request for a new account sends one statement, which stores the account as it was asked for. No other
command is sent for either kind of request.
-/
namespace Passbook

open Service (Action Event heard transcript Uncommitted)

namespace Service

/-- Whether a request sends something to the database. -/
def Event.isCommand (event : Event) : Bool :=
  match event.1 with
  | .send _ | .sendWithin .. => true
  | _ => false

/-- The commands of a run, with what came back for them. -/
def sent (past : List Event) : List Event := past.filter Event.isCommand

@[simp] theorem sent_append (past past' : List Event) : sent (past ++ past') = sent past ++ sent past' :=
  List.filter_append ..

/-- A look at an account, with what came back. -/
def look (id : Int) (outcome : Except StorageFault Answer) : Event :=
  ⟨.send (.statement (.selectAccount id)), outcome⟩

/-- Whether what came back is an account that holds a currency. -/
def Shows (currency : String) (outcome : Except StorageFault Answer) : Prop :=
  ∃ answer account, outcome = .ok answer ∧ Answer.one Account.ofRow answer = .ok account ∧
    account.currency = currency

/-- Whether nothing but connections and single statements was asked for. -/
def Preface (past : List Event) : Prop :=
  ∀ event ∈ past, event.1 = .checkout ∨ event.1 = .release false ∨
    ∃ statement, event.1 = .send (.statement statement)

namespace Preface

variable {past : List Event}

theorem uncommitted (h : Preface past) : Uncommitted past := by
  intro event hevent heq
  rcases h event hevent with hcheckout | hrelease | ⟨statement, hstatement⟩
  · cases hcheckout.symm.trans heq
  · cases hrelease.symm.trans heq
  · cases hstatement.symm.trans heq

theorem heard_eq (h : Preface past) : heard past = [] := by
  refine List.filterMap_eq_nil_iff.mpr fun event hevent => ?_
  obtain ⟨action, answer⟩ := event
  rcases h _ hevent with rfl | rfl | ⟨statement, rfl⟩ <;> rfl

/-- A transaction that is begun afterwards has a transcript of its own. -/
theorem transcript_eq (h : Preface past) (later : List Event) :
    transcript (past ++ later) = transcript later := by
  have hpast : transcript past = none := by
    induction past using List.reverseRecOn with
    | nil => rfl
    | append_singleton earlier event _ =>
        rw [transcript_append_singleton]
        obtain ⟨action, answer⟩ := event
        rcases h ⟨action, answer⟩ (by simp) with rfl | rfl | ⟨statement, rfl⟩ <;> rfl
  rw [transcript, List.foldl_append]
  change later.foldl record (transcript past) = _
  rw [hpast, transcript]

end Preface
end Service

open Service (sent look Shows Preface)

/-- What a script has come to does not depend on what was asked for before the transaction. -/
theorem Ready.behind {α : Type} {body : Script α} {value : α} {earlier own : List Event}
    (h : Ready body value own) (hearlier : Preface earlier) : Ready body value (earlier ++ own) where
  course := by
    rw [Service.heard_append, hearlier.heard_eq, List.nil_append]
    exact h.course
  transcript_eq := by
    rw [hearlier.transcript_eq, h.transcript_eq, Service.heard_append, hearlier.heard_eq,
      List.nil_append]
  uncommitted event hevent := by
    rcases List.mem_append.mp hevent with hevent | hevent
    · exact hearlier.uncommitted event hevent
    · exact h.uncommitted event hevent

theorem AskedInOrder.behind {α : Type} {body : Script α} {earlier own : List Event} {action : Action}
    (h : AskedInOrder body own action) (hearlier : Preface earlier) :
    AskedInOrder body (earlier ++ own) action := by
  cases action with
  | send command =>
      cases command with
      | commit =>
          obtain ⟨value, hready⟩ := h
          exact ⟨value, hready.behind hearlier⟩
      | _ => exact h
  | sendWithin statement patience =>
      obtain ⟨millis, next, hcourse⟩ := h
      refine ⟨millis, next, ?_⟩
      rwa [Service.heard_append, hearlier.heard_eq, List.nil_append]
  | _ => exact h

namespace Service

/-- Whether a transaction was begun before anything else was sent. -/
def Opened (past : List Event) : Prop :=
  ∃ earlier outcome, earlier ++ [⟨.send .begin, outcome⟩] <+: past ∧ sent earlier = []

/-- What holds before each request of a transaction of its own. -/
def BeginsFirst (past : List Event) : Action → Prop
  | .send .begin => sent past = []
  | .send _ | .sendWithin .. => Opened past
  | _ => True

theorem Opened.append {past : List Event} (h : Opened past) (later : List Event) :
    Opened (past ++ later) := by
  obtain ⟨earlier, outcome, hprefix, hsent⟩ := h
  exact ⟨earlier, outcome, hprefix.trans (List.prefix_append _ _), hsent⟩

end Service

open Service (Opened BeginsFirst)

variable {α : Type}

theorem within_beginsFirst (q : Script.Body α) (patience : Nat) {past : List Event} (h : Opened past) :
    (Script.within patience q).Keeps BeginsFirst (fun past _ => Opened past) past := by
  induction q generalizing patience past with
  | done result => exact h
  | ask action next ih =>
      cases action with
      | send statement =>
          simp only [Script.within, Program.keeps_ask]
          refine ⟨h, fun reply => ?_⟩
          cases reply with
          | overdue => exact h.append _
          | inTime after outcome => exact ih outcome _ (h.append _)
      | pause wait =>
          simp only [Script.within]
          split
          · exact h
          · exact ih () _ h
      | clock =>
          simp only [Script.within, Program.keeps_ask]
          exact ⟨trivial, fun now => ih now _ (h.append _)⟩
      | announce hook user =>
          simp only [Script.within, Program.keeps_ask]
          exact ⟨trivial, fun outcome => ih outcome _ (h.append _)⟩

theorem conclude_beginsFirst (result : Except Failure α) {past : List Event} (h : Opened past) :
    (conclude result).Keeps BeginsFirst (fun past _ => Opened past) past := by
  cases result with
  | ok value =>
      refine ⟨h, fun committed => ?_⟩
      cases committed with
      | ok answer => exact ⟨trivial, fun _ => (h.append _).append _⟩
      | error fault => exact ⟨trivial, fun _ => (h.append _).append _⟩
  | error cause =>
      refine ⟨h, fun undone => ?_⟩
      cases undone with
      | ok answer => exact ⟨trivial, fun _ => (h.append _).append _⟩
      | error fault => exact ⟨trivial, fun _ => (h.append _).append _⟩

theorem atomically_beginsFirst (limit : Nat) (body : Script α) :
    (atomically limit body).Keeps BeginsFirst (fun past _ => sent past = [] ∨ Opened past) [] := by
  rw [atomically_eq]
  refine ⟨trivial, fun opened => ?_⟩
  cases opened with
  | error fault => exact .inl rfl
  | ok opened =>
      refine ⟨rfl, fun begun => ?_⟩
      have hopened : Opened [⟨.checkout, .ok opened⟩, ⟨.send .begin, begun⟩] :=
        ⟨[⟨.checkout, .ok opened⟩], begun, List.prefix_rfl, rfl⟩
      cases begun with
      | error fault => exact ⟨trivial, fun _ => .inr (hopened.append _)⟩
      | ok begun =>
          refine ⟨hopened, fun limited => ?_⟩
          cases limited with
          | error fault => exact ⟨trivial, fun _ => .inr ((hopened.append _).append _)⟩
          | ok limited =>
              refine (Program.keeps_bind _ _).mpr ?_
              refine (within_beginsFirst body.run limit (hopened.append _)).mono (fun _ _ h => h) ?_
              intro past result hpast
              exact (conclude_beginsFirst result hpast).mono (fun _ _ h => h) fun _ _ h => .inr h

namespace Payment

variable {payment : Payment}

/-- Whether a payment passes the checks that need no look at the accounts. -/
structure Admitted (payment : Payment) : Prop where
  positive : 0 < payment.order.amount
  distinct : payment.order.fromAccount ≠ payment.order.toAccount
  supported : payment.currency ∈ Account.currencies

/-- Whether both accounts were looked at and hold the currency of the payment, and nothing else was
sent. -/
def Screened (payment : Payment) (past : List Event) : Prop :=
  ∃ first second,
    sent past = [look payment.order.fromAccount first, look payment.order.toAccount second] ∧
    Shows payment.currency first ∧ Shows payment.currency second

/-- Whether BEGIN was sent, after both accounts were looked at. -/
def Begun (payment : Payment) (past : List Event) : Prop :=
  ∃ earlier outcome, earlier ++ [⟨.send .begin, outcome⟩] <+: past ∧ payment.Screened earlier

def Asks (payment : Payment) (past : List Event) : Action → Prop
  | .send .begin => payment.Admitted ∧ payment.Screened past
  | .send (.statement statement) =>
      sent past = [] ∧ statement = .selectAccount payment.order.fromAccount ∨
        ∃ first, sent past = [look payment.order.fromAccount first] ∧
          Shows payment.currency first ∧ statement = .selectAccount payment.order.toAccount
  | .send .commit =>
      payment.Begun past ∧ AskedInOrder payment.order.admitted past (.send .commit)
  | .sendWithin statement patience =>
      payment.Begun past ∧ AskedInOrder payment.order.admitted past (.sendWithin statement patience)
  | .send (.limit _) | .send .rollback => payment.Begun past
  | .send (.migrate _) | .send (.bookkeeping _) => False
  | _ => True

/-- What has been sent for a payment in the end: BEGIN, or at most the two looks. -/
def Ended (payment : Payment) (past : List Event) : Prop :=
  payment.Begun past ∨ ∃ first second,
    sent past <+: [look payment.order.fromAccount first, look payment.order.toAccount second]

/-- What looking at the accounts comes to. -/
inductive Viewed (payment : Payment) : List Event → Except Http.Problem Unit → Prop
  | unconnected {fault problem} : Viewed payment [⟨.checkout, .error fault⟩] (.error problem)
  | first {outcome problem} : Viewed payment
      [⟨.checkout, .ok ()⟩, look payment.order.fromAccount outcome, ⟨.release false, ()⟩] (.error problem)
  | second {first outcome problem} : Viewed payment
      [⟨.checkout, .ok ()⟩, look payment.order.fromAccount first, look payment.order.toAccount outcome,
        ⟨.release false, ()⟩] (.error problem)
  | both {first second} : Shows payment.currency first → Shows payment.currency second → Viewed payment
      [⟨.checkout, .ok ()⟩, look payment.order.fromAccount first, look payment.order.toAccount second,
        ⟨.release false, ()⟩] (.ok ())

theorem Viewed.preface {past : List Event} {result : Except Http.Problem Unit}
    (h : payment.Viewed past result) : Preface past := by
  intro event hevent
  cases h <;> simp only [look, List.mem_cons, List.not_mem_nil, or_false] at hevent
  case unconnected => exact .inl (by rw [hevent])
  case first => rcases hevent with rfl | rfl | rfl <;> simp
  case second => rcases hevent with rfl | rfl | rfl | rfl <;> simp
  case both => rcases hevent with rfl | rfl | rfl | rfl <;> simp

theorem Viewed.screened {past : List Event} (h : payment.Viewed past (.ok ())) :
    payment.Screened past := by
  cases h with
  | both hfirst hsecond => exact ⟨_, _, rfl, hfirst, hsecond⟩

theorem Viewed.ended {past : List Event} {problem : Http.Problem}
    (h : payment.Viewed past (.error problem)) : payment.Ended past := by
  cases h with
  | unconnected => exact .inr ⟨.ok ⟨[], 0⟩, .ok ⟨[], 0⟩, List.nil_prefix⟩
  | @first outcome => exact .inr ⟨outcome, .ok ⟨[], 0⟩, List.prefix_append [_] [_]⟩
  | second => exact .inr ⟨_, _, List.prefix_rfl⟩

theorem checkAccount_asks {id : Int} {past : List Event}
    (hasks : payment.Asks past (.send (.statement (.selectAccount id)))) :
    (payment.checkAccount id).Keeps payment.Asks
      (fun past' result => ∃ outcome, past' = past ++ [look id outcome] ∧
        (Shows payment.currency outcome ∧ result = .ok () ∨ ∃ problem, result = .error problem)) past := by
  refine ⟨hasks, fun outcome => ?_⟩
  cases hresult : (Query.account id).result outcome with
  | error failure =>
      simp only [Program.done_bind, Program.pure_eq, hresult]
      exact ⟨outcome, rfl, .inr ⟨_, rfl⟩⟩
  | ok account =>
      simp only [Program.done_bind, Program.pure_eq, hresult]
      split
      · next hcurrency =>
          obtain ⟨answer, rfl, hread⟩ := Query.result_eq_ok hresult
          exact ⟨.ok answer, rfl, .inl ⟨⟨answer, account, rfl, hread, hcurrency⟩, rfl⟩⟩
      · exact ⟨outcome, rfl, .inr ⟨_, rfl⟩⟩

theorem checkAccounts_asks (payment : Payment) :
    payment.checkAccounts.Keeps payment.Asks payment.Viewed [] := by
  refine ⟨trivial, fun opened => ?_⟩
  cases opened with
  | error fault => exact .unconnected
  | ok opened =>
      change Program.Keeps _ payment.Viewed (payment.checkBoth.bind fun result =>
        (Service.release false).bind fun _ => .done result) _
      refine (Program.keeps_bind _ _).mpr ?_
      refine (Program.keeps_bind _ _).mpr ?_
      refine (checkAccount_asks (.inl ⟨rfl, rfl⟩)).mono (fun _ _ h => h) ?_
      rintro _ result ⟨first, rfl, ⟨hfirst, rfl⟩ | ⟨problem, rfl⟩⟩
      · refine (checkAccount_asks (.inr ⟨first, rfl, hfirst, rfl⟩)).mono (fun _ _ h => h) ?_
        rintro _ result ⟨second, rfl, ⟨hsecond, rfl⟩ | ⟨problem, rfl⟩⟩
        · exact ⟨trivial, fun _ => .both hfirst hsecond⟩
        · exact ⟨trivial, fun _ => .second⟩
      · exact ⟨trivial, fun _ => .first⟩

theorem Screened.append {earlier own : List Event} (h : payment.Screened earlier) (hown : sent own = []) :
    payment.Screened (earlier ++ own) := by
  obtain ⟨first, second, hlooks, hshown⟩ := h
  exact ⟨first, second, by rw [Service.sent_append, hown, List.append_nil, hlooks], hshown⟩

theorem Screened.begun {earlier own : List Event} (hscreened : payment.Screened earlier)
    (h : Opened own) : payment.Begun (earlier ++ own) := by
  obtain ⟨before, outcome, hprefix, hsent⟩ := h
  refine ⟨earlier ++ before, outcome, ?_, hscreened.append hsent⟩
  rw [List.append_assoc]
  exact (List.prefix_append_right_inj earlier).mpr hprefix

theorem asks_behind {earlier own : List Event} {action : Action} (hpayment : payment.Admitted)
    (hearlier : Preface earlier) (hscreened : payment.Screened earlier) (hfirst : BeginsFirst own action)
    (hasked : AskedInOrder payment.order.admitted own action) :
    payment.Asks (earlier ++ own) action := by
  cases action with
  | send command =>
      cases command with
      | begin => exact ⟨hpayment, hscreened.append hfirst⟩
      | limit => exact hscreened.begun hfirst
      | commit => exact ⟨hscreened.begun hfirst, hasked.behind hearlier⟩
      | rollback => exact hscreened.begun hfirst
      | statement => exact hasked.elim
      | migrate => exact hasked.elim
      | bookkeeping => exact hasked.elim
  | sendWithin => exact ⟨hscreened.begun hfirst, hasked.behind hearlier⟩
  | _ => trivial

theorem supported_of_check {payment : Payment} (h : Field.currency payment.currency = .ok ()) :
    payment.currency ∈ Account.currencies := by
  unfold Field.currency Field.require at h
  split at h
  · next hsupported => exact List.contains_iff_mem.mp hsupported
  · cases h

theorem execute_asks (limit : Nat) (payment : Payment) :
    (payment.execute limit).Keeps payment.Asks (fun past _ => payment.Ended past) [] := by
  have hnothing : payment.Ended [] := .inr ⟨.ok ⟨[], 0⟩, .ok ⟨[], 0⟩, List.nil_prefix⟩
  cases hcheck : payment.order.check with
  | error failure =>
      rw [execute, hcheck]
      exact hnothing
  | ok =>
      cases hcurrency : Field.currency payment.currency with
      | error fault =>
          rw [execute, hcheck, hcurrency]
          exact hnothing
      | ok =>
          obtain ⟨hpositive, hdistinct⟩ := TransferOrder.check_eq_ok.mp hcheck
          have hadmitted : payment.Admitted := ⟨hpositive, hdistinct, supported_of_check hcurrency⟩
          rw [execute, hcheck, hcurrency]
          refine (Program.keeps_bind _ _).mpr ?_
          refine payment.checkAccounts_asks.mono (fun _ _ h => h) fun earlier result hviewed => ?_
          cases result with
          | error problem => exact hviewed.ended
          | ok =>
              have hexecute : payment.order.execute limit = atomically limit payment.order.admitted := by
                rw [TransferOrder.execute, hcheck, TransferOrder.admitted_of_ok hcheck]
              rw [hexecute]
              have hbehind := ((atomically_beginsFirst limit payment.order.admitted).and
                (atomically_keeps limit payment.order.admitted)).behind earlier
              rw [List.append_nil] at hbehind
              refine (Program.keeps_bind _ _).mpr (hbehind.mono ?_ ?_)
              · rintro _ action ⟨own, rfl, hfirst, hasked⟩
                exact asks_behind hadmitted hviewed.preface hviewed.screened hfirst hasked
              · rintro _ result ⟨own, rfl, hsent | hopened, _⟩
                · obtain ⟨first, second, hlooks, _⟩ := hviewed.screened
                  refine .inr ⟨first, second, ?_⟩
                  rw [Service.sent_append, hsent, List.append_nil, hlooks]
                · exact .inl (hviewed.screened.begun hopened)

end Payment

namespace AccountOpening

def Asks (opening : AccountOpening) : Action → Prop
  | .send command =>
      command = .statement (.insertAccount opening.owner opening.balance opening.currency)
  | .sendWithin .. => False
  | _ => True

theorem execute_asks (opening : AccountOpening) :
    opening.execute.Keeps (fun _ => opening.Asks) (fun _ _ => True) [] := by
  cases hcheck : opening.check with
  | error fault =>
      rw [execute, hcheck]
      trivial
  | ok =>
      rw [execute, hcheck]
      refine ⟨trivial, fun opened => ?_⟩
      cases opened with
      | error fault => trivial
      | ok opened => exact ⟨rfl, fun outcome => ⟨trivial, fun _ => trivial⟩⟩

end AccountOpening

/-- What a request to open an account or to move money is for. -/
inductive Errand where
  | opening (opening : AccountOpening)
  | payment (payment : Payment)

def Errand.Asks (past : List Event) (action : Action) : Errand → Prop
  | .opening wanted => wanted.Asks action
  | .payment wanted => wanted.Asks past action

namespace Http

def Request.IsPost (request : Request) (path : String) : Prop :=
  request.method = "POST" ∧ request.path = path.toList

/-- What a request brings that can be understood. -/
inductive Request.Brings (request : Request) : Errand → Prop
  | opening {opening} : request.IsPost "/api/v1/accounts" →
      request.bodyRecord AccountOpening.shape = .ok opening → Brings request (.opening opening)
  | payment {payment} : request.IsPost "/api/v1/transfers" →
      request.bodyRecord Payment.shape = .ok payment → Brings request (.payment payment)

/-- What holds before each request to the database of what a client has requested. -/
def Request.Asks (request : Request) (past : List Event) (action : Action) : Prop :=
  ∃ errand, request.Brings errand ∧ errand.Asks past action

/-- What has been sent in the end, if it is a request to move money. -/
def Request.Ended (request : Request) (past : List Event) : Prop :=
  sent past = [] ∨ ∃ payment, request.bodyRecord Payment.shape = .ok payment ∧ payment.Ended past

theorem answered_keeps {β γ : Type} {status : Nat} {json : γ → Json.Value} {needed : Except Rejection β}
    {operation : β → Service (Except Problem γ)} {before : List Event → Action → Prop}
    {after : List Event → Prop} (hnothing : after [])
    (h : ∀ value, needed = .ok value → (operation value).Keeps before (fun past _ => after past) []) :
    (answered status json needed operation).Keeps before (fun past _ => after past) [] := by
  cases needed with
  | error rejection => exact hnothing
  | ok value =>
      refine (Program.keeps_bind _ _).mpr ((h value rfl).mono (fun _ _ h => h) fun past result hpast => ?_)
      cases result <;> exact hpast

theorem respond_opening_asks (limit : Nat) {request : Request} (h : request.IsPost "/api/v1/accounts") :
    (respond limit request).Keeps request.Asks (fun _ _ => True) [] := by
  rw [respond_eq_serve limit .createAccount h.1 h.2 (by decide +kernel) (by decide)]
  refine answered_keeps trivial fun opening hopening => ?_
  exact opening.execute_asks.mono (fun _ _ hasks => ⟨.opening opening, .opening h hopening, hasks⟩)
    fun _ _ h => h

theorem respond_payment_asks (limit : Nat) {request : Request} (h : request.IsPost "/api/v1/transfers") :
    (respond limit request).Keeps request.Asks (fun past _ => request.Ended past) [] := by
  rw [respond_eq_serve limit .createTransfer h.1 h.2 (by decide +kernel) (by decide)]
  refine answered_keeps (.inl rfl) fun payment hpayment => ?_
  exact (payment.execute_asks limit).mono
    (fun _ _ hasks => ⟨.payment payment, .payment h hpayment, hasks⟩)
    fun _ _ hended => .inr ⟨payment, hpayment, hended⟩

/-- What may be sent for a request to move money. -/
structure Screens (request : Request) (past : List Event) : Prop where
  begins : ∀ {earlier outcome later}, past = earlier ++ ⟨.send .begin, outcome⟩ :: later →
    ∃ payment, request.bodyRecord Payment.shape = .ok payment ∧ payment.Admitted ∧
      payment.Screened earlier
  otherwise : (∀ outcome, ⟨.send .begin, outcome⟩ ∉ past) → sent past = [] ∨
    ∃ payment first second, request.bodyRecord Payment.shape = .ok payment ∧
      sent past <+: [look payment.order.fromAccount first, look payment.order.toAccount second]

/-- In any surroundings BEGIN is sent only after both accounts were shown to hold the currency of an
admitted payment, and without it nothing but the looks at them is sent. -/
theorem respond_screens {σ : Type} (surroundings : (r : Action) → σ → r.Answer × σ) (state : σ)
    (limit : Nat) {request : Request} (h : request.IsPost "/api/v1/transfers") :
    Screens request ((respond limit request).history surroundings state) := by
  have hkeeps := respond_payment_asks limit h
  constructor
  case begins =>
    intro earlier outcome later hhistory
    obtain ⟨errand, hbrings, hasks⟩ := hkeeps.asked_after surroundings state hhistory
    cases hbrings with
    | opening hpost =>
        have hpaths : "/api/v1/accounts".toList = "/api/v1/transfers".toList := hpost.2.symm.trans h.2
        exact absurd hpaths (by decide)
    | payment _ hpayment => exact ⟨_, hpayment, hasks⟩
  case otherwise =>
    intro hnone
    rcases hkeeps.run surroundings state with
      hnothing | ⟨payment, hpayment, hbegun | ⟨first, second, hlooks⟩⟩
    · exact .inl hnothing
    · obtain ⟨earlier, outcome, hbefore, _⟩ := hbegun
      exact absurd (hbefore.subset (by simp)) (hnone outcome)
    · exact .inr ⟨payment, first, second, hpayment, hlooks⟩

end Http
end Passbook
