import Passbook.Proofs.Field.Rules
import Passbook.Proofs.Password.Stored
import Passbook.Proofs.Record.Body

/-!
# What is refused and what is passed on

A request that breaks a rule of its fields is refused before anything is asked for: no connection is used,
no task is queued, no mail is handed over and no salt is drawn. It is told the first rule that it breaks.

A request that breaks none is passed on. Unless there is no connection or, for a transaction, BEGIN or the
cap on its statements fails, a statement is sent, and the first one binds the values of the request as they
came. Of a password it binds a digest that the password matches. A payment looks at both accounts first, and
only then its transaction begins with the order as it came.
-/
namespace Passbook

open Service (Action Event Pooled)
open Rule (FirstBroken Enforces)

namespace Service

/-- Whether what was asked for is a transaction that sends this statement first: nothing else is sent
behind BEGIN and the cap on its statements. -/
inductive Begins (limit : Nat) (statement : Statement) : List Event → Prop
  | unconnected (fault) : Begins limit statement [⟨.checkout, .error fault⟩]
  | unbegun (fault) : Begins limit statement
      [⟨.checkout, .ok ()⟩, ⟨.send .begin, .error fault⟩, ⟨.release false, ()⟩]
  | unlimited (begun fault) : Begins limit statement [⟨.checkout, .ok ()⟩, ⟨.send .begin, .ok begun⟩,
      ⟨.send (.limit limit), .error fault⟩, ⟨.release true, ()⟩]
  | sent (begun limited reply later) : Begins limit statement (⟨.checkout, .ok ()⟩ ::
      ⟨.send .begin, .ok begun⟩ :: ⟨.send (.limit limit), .ok limited⟩ ::
      ⟨.sendWithin statement limit, reply⟩ :: later)

theorem reported_keeps {α : Type} {part : Service (Except Failure α)} {P : List Event → Prop}
    {past : List Event} (h : part.Keeps (fun _ _ => True) (fun past _ => P past) past) :
    (reported part).Keeps (fun _ _ => True) (fun past _ => P past) past :=
  (Program.keeps_bind _ _).mpr h

theorem pooled_keeps {α : Type} (query : Query α) :
    (reported (pooled query)).Keeps (fun _ _ => True) (fun past _ => Pooled query.statement past) [] := by
  rw [reported_pooled]
  refine ⟨trivial, fun opened => ?_⟩
  cases opened with
  | error fault => exact .unconnected fault
  | ok opened => exact ⟨trivial, fun outcome => ⟨trivial, fun _ => .sent outcome⟩⟩

end Service

open Service (Begins)

/-- The first statement of a script is the first one of its transaction. -/
theorem atomically_begins {α : Type} (limit : Nat) {body : Script α} {statement : Statement}
    {next : Except StorageFault Answer → Script.Body α} (hbody : body.run = .ask (.send statement) next) :
    (atomically limit body).Keeps (fun _ _ => True) (fun past _ => Begins limit statement past) [] := by
  rw [atomically_eq]
  refine ⟨trivial, fun opened => ?_⟩
  cases opened with
  | error fault => exact .unconnected fault
  | ok opened =>
      refine ⟨trivial, fun begun => ?_⟩
      cases begun with
      | error fault => exact ⟨trivial, fun _ => .unbegun fault⟩
      | ok begun =>
          refine ⟨trivial, fun limited => ?_⟩
          cases limited with
          | error fault => exact ⟨trivial, fun _ => .unlimited begun fault⟩
          | ok limited =>
              simp only [hbody, Script.within, Program.ask_bind, Program.keeps_ask]
              refine ⟨trivial, fun reply => ?_⟩
              -- Whatever follows, the statement stays the first one.
              refine (Program.keeps_of_append (P := fun past => ∃ later, past =
                [⟨.checkout, .ok ()⟩, ⟨.send .begin, .ok begun⟩, ⟨.send (.limit limit), .ok limited⟩,
                  ⟨.sendWithin statement limit, reply⟩] ++ later) ?_ _ ⟨[], rfl⟩).mono (fun _ _ h => h) ?_
              · rintro _ later ⟨before, rfl⟩
                exact ⟨before ++ later, List.append_assoc ..⟩
              · rintro _ _ ⟨later, rfl⟩
                exact .sent begun limited reply later

/-- What a client asks for. -/
inductive Wish where
  | registration (registration : Registration)
  | opening (opening : AccountOpening)
  | payment (payment : Payment)
  | page (page : AccountPage)
  | confirmation (confirmation : Confirmation)

def Service.Event.statement? : Event → Option Statement
  | ⟨.send (.statement statement), _⟩ => some statement
  | ⟨.sendWithin statement _, _⟩ => some statement
  | _ => none

def Service.statements (past : List Event) : List Statement := past.filterMap Event.statement?

theorem Service.statements_append (past past' : List Event) :
    statements (past ++ past') = statements past ++ statements past' := List.filterMap_append

/-- Whether there is no connection, or no transaction on it, or no cap on the statements of one. -/
def Service.Event.Bars : Event → Prop
  | ⟨.checkout, .error _⟩ | ⟨.send .begin, .error _⟩ | ⟨.send (.limit _), .error _⟩ => True
  | _ => False

/-- Whether every salt that was drawn has its sixteen bytes. -/
def Service.Salted (past : List Event) : Prop := ∀ salt, ⟨.salt, salt⟩ ∈ past → salt.length = 16

open Service (statements Salted)

namespace Wish

def rules : Wish → List Rule
  | .registration wanted => wanted.rules
  | .opening wanted => wanted.rules
  | .payment wanted => wanted.rules
  | .page wanted => wanted.rules
  | .confirmation wanted => wanted.rules

/-- Whether these are the values that its first statement binds. -/
inductive Binds : Wish → List Param → Prop
  | registration {registration digest} : Password.verify registration.password digest = true →
      Binds (.registration registration) [.text registration.username, .text digest,
        .text registration.fullName, .text registration.email]
  | opening {opening} :
      Binds (.opening opening) [.text opening.owner, .int opening.balance, .text opening.currency]
  | payment {payment} : Binds (.payment payment) [.int payment.order.fromAccount]
  | page {page} : Binds (.page page) [.text page.owner, .int page.size, .int ((page.number - 1) * page.size)]
  | confirmation {confirmation} : Binds (.confirmation confirmation) [.int confirmation.recordId]

/-- Whether this is asked for where the rules are kept. -/
inductive PassedOn (limit : Nat) : Wish → List Event → Prop
  | registration {registration salt digest past} : Password.verify registration.password digest = true →
      Begins limit (.insertUser (registration.user digest)) past →
      PassedOn limit (.registration registration) (⟨.salt, salt⟩ :: past)
  | opening {opening past} : Pooled (.insertAccount opening.owner opening.balance opening.currency) past →
      PassedOn limit (.opening opening) past
  | unpaid {payment past problem} : payment.Viewed past (.error problem) →
      PassedOn limit (.payment payment) past
  | payment {payment earlier past} : payment.Viewed earlier (.ok ()) →
      Begins limit (.insertTransfer payment.order) past → PassedOn limit (.payment payment) (earlier ++ past)
  | page {page past} : Pooled (.selectAccounts page.owner ⟨page.size, page.skipped⟩) past →
      PassedOn limit (.page page) past
  | confirmation {confirmation past} : Begins limit (.lockVerification confirmation.recordId) past →
      PassedOn limit (.confirmation confirmation) past

end Wish

namespace Service

variable {limit : Nat} {statement first : Statement} {past : List Event} {rest : List Statement}

theorem Begins.statements_cases (h : Begins limit statement past) :
    statements past = [] ∨ ∃ rest, statements past = statement :: rest := by
  cases h with
  | unconnected fault => exact .inl rfl
  | unbegun fault => exact .inl rfl
  | unlimited begun fault => exact .inl rfl
  | sent begun limited reply later => exact .inr ⟨_, rfl⟩

theorem Begins.statements_eq (h : Begins limit statement past) (hfirst : statements past = first :: rest) :
    first = statement := by
  rcases h.statements_cases with hnone | ⟨rest', hsome⟩
  · cases hnone.symm.trans hfirst
  · exact (List.cons.inj (hfirst.symm.trans hsome)).1

theorem Begins.attempted (h : Begins limit statement past) (hopen : ∀ event ∈ past, ¬event.Bars) :
    statements past ≠ [] := by
  cases h with
  | unconnected fault => exact absurd trivial (hopen _ List.mem_cons_self)
  | unbegun fault => exact absurd trivial (hopen ⟨.send .begin, .error fault⟩ (by simp))
  | unlimited begun fault => exact absurd trivial (hopen ⟨.send (.limit limit), .error fault⟩ (by simp))
  | sent begun limited reply later => exact List.cons_ne_nil _ _

theorem Pooled.statements_eq (h : Pooled statement past) (hfirst : statements past = first :: rest) :
    first = statement := by
  cases h with
  | unconnected fault => cases hfirst
  | sent outcome => exact (List.cons.inj hfirst).1.symm

theorem Pooled.attempted (h : Pooled statement past) (hopen : ∀ event ∈ past, ¬event.Bars) :
    statements past ≠ [] := by
  cases h with
  | unconnected fault => exact absurd trivial (hopen _ List.mem_cons_self)
  | sent outcome => exact List.cons_ne_nil _ _

end Service

namespace Payment

variable {payment : Payment} {past : List Event} {result : Except Http.Problem Unit}

/-- The statements that look at both accounts. -/
def looks (payment : Payment) : List Statement :=
  [.selectAccount payment.order.fromAccount, .selectAccount payment.order.toAccount]

theorem Viewed.statements_eq (h : payment.Viewed past result) :
    statements past = [] ∨ ∃ rest, statements past = .selectAccount payment.order.fromAccount :: rest := by
  cases h with
  | unconnected => exact .inl rfl
  | first => exact .inr ⟨_, rfl⟩
  | second => exact .inr ⟨_, rfl⟩
  | both => exact .inr ⟨_, rfl⟩

theorem Viewed.attempted (h : payment.Viewed past result) (hopen : ∀ event ∈ past, ¬event.Bars) :
    statements past ≠ [] := by
  cases h with
  | unconnected => exact absurd trivial (hopen _ List.mem_cons_self)
  | first => exact List.cons_ne_nil _ _
  | second => exact List.cons_ne_nil _ _
  | both => exact List.cons_ne_nil _ _

end Payment

namespace Wish.PassedOn

variable {limit : Nat} {wish : Wish} {past : List Event}

theorem binds (h : wish.PassedOn limit past) {statement : Statement} {rest : List Statement}
    (hfirst : statements past = statement :: rest) : wish.Binds statement.params := by
  cases h with
  | registration hverify hbegins =>
      cases hbegins.statements_eq hfirst
      exact .registration hverify
  | opening hpooled =>
      cases hpooled.statements_eq hfirst
      exact .opening
  | unpaid hviewed =>
      rcases hviewed.statements_eq with hnone | ⟨rest', hsome⟩
      · cases hnone.symm.trans hfirst
      · cases hsome.symm.trans hfirst
        exact .payment
  | payment hviewed _ =>
      cases hviewed with
      | both =>
          cases (List.cons.inj hfirst).1
          exact .payment
  | page hpooled =>
      cases hpooled.statements_eq hfirst
      exact .page
  | confirmation hbegins =>
      cases hbegins.statements_eq hfirst
      exact .confirmation

/-- A statement is sent unless there is no connection or no transaction for it. -/
theorem attempted (h : wish.PassedOn limit past) (hopen : ∀ event ∈ past, ¬event.Bars) :
    statements past ≠ [] := by
  cases h with
  | registration _ hbegins => exact hbegins.attempted (List.forall_mem_cons.mp hopen).2
  | opening hpooled => exact hpooled.attempted hopen
  | unpaid hviewed => exact hviewed.attempted hopen
  | payment hviewed _ =>
      cases hviewed with
      | both => exact List.cons_ne_nil _ _
  | page hpooled => exact hpooled.attempted hopen
  | confirmation hbegins => exact hbegins.attempted hopen

/-- A payment looks at the account that pays, then at the other one, and then stores its order. -/
theorem orders {payment : Payment} (h : (Wish.payment payment).PassedOn limit past) :
    statements past <+: payment.looks ∨
      ∃ rest, statements past = payment.looks ++ .insertTransfer payment.order :: rest := by
  cases h with
  | unpaid hviewed =>
      cases hviewed with
      | unconnected => exact .inl List.nil_prefix
      | first => exact .inl (List.prefix_append [_] [_])
      | second => exact .inl List.prefix_rfl
  | payment hviewed hbegins =>
      cases hviewed with
      | both =>
          rcases hbegins.statements_cases with hnone | ⟨rest, hsome⟩
          · exact .inl (by rw [Service.statements_append, hnone, List.append_nil]; exact List.prefix_rfl)
          · exact .inr ⟨rest, by rw [Service.statements_append, hsome]; rfl⟩

end Wish.PassedOn

/-- Whether an operation refuses what breaks a rule of a wish at once, and passes on what breaks none. -/
structure Wish.Served (limit : Nat) (wish : Wish) {α : Type} (operation : Service (Except Http.Problem α)) :
    Prop where
  refuses : ∀ {rule}, FirstBroken wish.rules rule →
    ∃ problem, operation = .done (.error problem) ∧ problem.notice = rule.notice
  passes : (∀ rule ∈ wish.rules, rule.Kept) →
    operation.Keeps (fun _ _ => True) (fun past _ => Salted past → wish.PassedOn limit past) []

namespace Service

variable {α β : Type} {check : Except FieldFault α} {rules : List Rule} {rule : Rule}

theorem checked_refuses (h : Enforces FieldFault.notice rules check) (hbroken : FirstBroken rules rule)
    (next : α → Service (Except Http.Problem β)) :
    ∃ problem, checked check next = .done (.error problem) ∧ problem.notice = rule.notice := by
  obtain ⟨fault, hfault, htells⟩ := h.refuses hbroken
  exact ⟨_, by rw [hfault, checked], htells⟩

end Service

theorem Registration.execute_served (limit : Nat) (registration : Registration) :
    (Wish.registration registration).Served limit (registration.execute limit) where
  refuses hbroken := Service.checked_refuses registration.check_enforces hbroken _
  passes hkept := by
    obtain ⟨⟨⟩, hcheck⟩ := registration.check_enforces.admits hkept
    rw [execute, hcheck]
    refine ⟨trivial, fun salt => ?_⟩
    let user := registration.user (Password.hash salt registration.password)
    have hregister : (Service.reported (user.register limit .enqueue)).Keeps (fun _ _ => True)
        (fun past _ => Begins limit (.insertUser user) past) [] :=
      Service.reported_keeps (atomically_begins limit (Script.run_query_bind (.createUser user) _))
    refine (hregister.behind [⟨.salt, salt⟩]).mono (fun _ _ _ => trivial) ?_
    rintro _ _ ⟨past, rfl, hbegins⟩ hsalted
    have hsalt : salt.length = 16 := hsalted salt List.mem_cons_self
    exact .registration (Password.verify_hash ⟨by omega, by omega⟩ _) hbegins

theorem AccountOpening.execute_served (limit : Nat) (opening : AccountOpening) :
    (Wish.opening opening).Served limit opening.execute where
  refuses hbroken := Service.checked_refuses opening.check_enforces hbroken _
  passes hkept := by
    obtain ⟨⟨⟩, hcheck⟩ := opening.check_enforces.admits hkept
    rw [execute, hcheck]
    exact (Service.pooled_keeps _).mono (fun _ _ h => h) fun _ _ hpooled _ => .opening hpooled

theorem AccountPage.accounts_served (limit : Nat) (page : AccountPage) :
    (Wish.page page).Served limit page.accounts where
  refuses hbroken := Service.checked_refuses page.checkedWindow_enforces hbroken _
  passes hkept := by
    rw [accounts, checkedWindow_of_not_refused (not_refused_of_kept hkept)]
    exact (Service.pooled_keeps _).mono (fun _ _ h => h) fun _ _ hpooled _ => .page hpooled

theorem Confirmation.checkAndExecute_served (limit : Nat) (confirmation : Confirmation) :
    (Wish.confirmation confirmation).Served limit (confirmation.checkAndExecute limit) where
  refuses hbroken := Service.checked_refuses confirmation.check_enforces hbroken _
  passes hkept := by
    obtain ⟨⟨⟩, hcheck⟩ := confirmation.check_enforces.admits hkept
    rw [checkAndExecute, hcheck]
    have hexecute : (Service.reported (confirmation.execute limit)).Keeps (fun _ _ => True)
        (fun past _ => Begins limit (.lockVerification confirmation.recordId) past) [] :=
      Service.reported_keeps (atomically_begins limit
        (Script.run_query_bind (.lockedVerification confirmation.recordId) _))
    exact hexecute.mono (fun _ _ h => h) fun _ _ hbegins _ => .confirmation hbegins

theorem Payment.execute_served (limit : Nat) (payment : Payment) :
    (Wish.payment payment).Served limit (payment.execute limit) where
  refuses {rule} hbroken := by
    rcases FirstBroken.of_append hbroken with hbroken | ⟨hkept, hbroken⟩
    · obtain ⟨failure, hfailure, htold⟩ := (check_enforces payment.order).refuses hbroken
      exact ⟨.failed failure, by rw [execute, hfailure], htold⟩
    · obtain ⟨⟨⟩, hcheck⟩ := (check_enforces payment.order).admits hkept
      rw [execute, hcheck]
      exact Service.checked_refuses Field.currency_enforces hbroken _
  passes hkept := by
    obtain ⟨horder, hcurrency⟩ := List.forall_mem_append.mp hkept
    obtain ⟨⟨⟩, hcheck⟩ := (check_enforces payment.order).admits horder
    obtain ⟨⟨⟩, hsupported⟩ := Field.currency_enforces.admits hcurrency
    have hexecute : payment.order.execute limit = atomically limit payment.order.script := by
      rw [TransferOrder.execute, hcheck]
    rw [execute, hcheck, hsupported]
    refine (Program.keeps_bind _ _).mpr ?_
    refine payment.checkAccounts_asks.mono (fun _ _ _ => trivial) fun earlier result hviewed => ?_
    cases result with
    | error problem => exact fun _ => .unpaid hviewed
    | ok =>
        rw [hexecute]
        have htransfer : (Service.reported (atomically limit payment.order.script)).Keeps (fun _ _ => True)
            (fun past _ => Begins limit (.insertTransfer payment.order) past) [] :=
          Service.reported_keeps (atomically_begins limit
            (Script.run_query_bind (.createTransfer payment.order) _))
        have hbehind := htransfer.behind earlier
        rw [List.append_nil] at hbehind
        refine hbehind.mono (fun _ _ _ => trivial) ?_
        rintro _ _ ⟨past, rfl, hbegins⟩ _
        exact .payment hviewed hbegins

namespace Http

variable {limit : Nat} {request : Request} {wish : Wish} {past : List Event} {response : Response}

/-- Whether a request asks for something, with a record that can be read. -/
inductive Request.Wants (request : Request) : Wish → Prop
  | registration {registration} : request.IsPost "/api/v1/users" →
      request.bodyRecord Registration.shape = .ok registration → Wants request (.registration registration)
  | opening {opening} : request.IsPost "/api/v1/accounts" →
      request.bodyRecord AccountOpening.shape = .ok opening → Wants request (.opening opening)
  | payment {payment} : request.IsPost "/api/v1/transfers" →
      request.bodyRecord Payment.shape = .ok payment → Wants request (.payment payment)
  | page {page} : request.Lists page → Wants request (.page page)
  | confirmation {confirmation} : request.method = "GET" → request.path = "/api/v1/verify_email".toList →
      request.queryRecord Confirmation.shape = .ok confirmation → Wants request (.confirmation confirmation)

structure Treated (limit : Nat) (wish : Wish) (past : List Event) (response : Response) : Prop where
  /-- a broken rule: nothing is asked for, and the first one is told -/
  refused : ∀ {rule}, FirstBroken wish.rules rule →
    past = [] ∧ response = rule.notice.response ∧ response.status = 400
  passedOn : (∀ rule ∈ wish.rules, rule.Kept) → wish.PassedOn limit past
  /-- the first statement binds the values of the request -/
  binds : ∀ {statement rest}, statements past = statement :: rest → wish.Binds statement.params
  attempted : (∀ rule ∈ wish.rules, rule.Kept) → (∀ event ∈ past, ¬event.Bars) → statements past ≠ []
  /-- a payment looks at both accounts, and then the first statement of its transaction stores its order -/
  orders : ∀ {payment}, wish = .payment payment → statements past <+: payment.looks ∨
    ∃ rest, statements past = payment.looks ++ .insertTransfer payment.order :: rest

theorem status_of_mem_rules {rule : Rule} (h : rule ∈ wish.rules) : rule.notice.status = 400 := by
  have hall : ∀ rule ∈ wish.rules, rule.notice.status = 400 := by
    cases wish <;> simp [Wish.rules, Registration.rules, AccountOpening.rules, Payment.rules, AccountPage.rules,
      Confirmation.rules, Field.usernameRules, Field.passwordRules, Field.fullNameRules, Field.emailRules,
      Field.currencyRules, Payment.orderRules, AccountPage.pageRules, Rule.field, Rule.transfer]
  exact hall rule h

theorem Treated.of_passedOn (hkept : ∀ rule ∈ wish.rules, rule.Kept) (h : wish.PassedOn limit past) :
    Treated limit wish past response where
  refused hbroken := absurd (hkept _ hbroken.mem) hbroken.not_kept
  passedOn _ := h
  binds := h.binds
  attempted _ := h.attempted
  orders := by
    rintro payment rfl
    exact h.orders

/-- An operation that serves a wish treats it as it should, whatever is answered. -/
theorem answered_treated {α β : Type} {operation : α → Service (Except Problem β)} {value : α} (status : Nat)
    (json : β → Json.Value) (h : wish.Served limit (operation value)) :
    (answered status json (.ok value) operation).Keeps (fun _ _ => True)
      (fun past response => Salted past → Treated limit wish past response) [] := by
  rcases Rule.exists_firstBroken wish.rules with hkept | ⟨rule, hbroken⟩
  · refine (Program.keeps_bind _ _).mpr ((h.passes hkept).mono (fun _ _ h => h) fun past result hpassed => ?_)
    cases result with
    | ok result => exact fun hsalted => .of_passedOn hkept (hpassed hsalted)
    | error problem => exact fun hsalted => .of_passedOn hkept (hpassed hsalted)
  · obtain ⟨problem, hoperation, hnotice⟩ := h.refuses hbroken
    rw [answered, hoperation]
    refine fun _ => ⟨fun {first} hfirst => ?_, fun hkept => ?_, (nomatch ·), fun hkept => ?_, fun _ => ?_⟩
    · obtain ⟨problem', hoperation', hnotice'⟩ := h.refuses hfirst
      cases hoperation.symm.trans hoperation'
      refine ⟨rfl, congrArg Notice.response hnotice', ?_⟩
      change problem.notice.status = 400
      rw [hnotice']
      exact status_of_mem_rules hfirst.mem
    · exact absurd (hkept _ hbroken.mem) hbroken.not_kept
    · exact absurd (hkept _ hbroken.mem) hbroken.not_kept
    · exact .inl List.nil_prefix

theorem Request.Wants.respond_keeps (h : request.Wants wish) (limit : Nat) :
    (respond limit request).Keeps (fun _ _ => True)
      (fun past response => Salted past → Treated limit wish past response) [] := by
  cases h with
  | @registration registration hpost hread =>
      rw [respond_eq_serve limit .createUser hpost.1 hpost.2 (by decide +kernel) (by decide), serve, hread]
      exact answered_treated 201 User.publicJson (registration.execute_served limit)
  | @opening opening hpost hread =>
      rw [respond_eq_serve limit .createAccount hpost.1 hpost.2 (by decide +kernel) (by decide), serve, hread]
      exact answered_treated 201 Account.json (opening.execute_served limit)
  | @payment payment hpost hread =>
      rw [respond_eq_serve limit .createTransfer hpost.1 hpost.2 (by decide +kernel) (by decide), serve, hread]
      exact answered_treated 201 TransferReceipt.json (payment.execute_served limit)
  | @page page hlists =>
      rw [respond_eq_serve limit .listAccounts hlists.method hlists.path (by decide +kernel) (by decide), serve,
        hlists.read]
      exact answered_treated 200 accountsJson (page.accounts_served limit)
  | @confirmation confirmation hmethod hpath hread =>
      rw [respond_eq_serve limit .confirmEmail hmethod hpath (by decide +kernel) (by decide), serve, hread]
      exact answered_treated 200 confirmationJson (confirmation.checkAndExecute_served limit)

theorem Request.isPost_posting {path : String} (hpath : '#' ∉ path.toList ∧ '?' ∉ path.toList)
    (values : Found) : (posting path values).IsPost path := ⟨rfl, path_posting hpath values⟩

/-- What the rules of the fields come to. -/
structure RulesDecide (limit : Nat) : Prop where
  /-- every registration can be posted, if the body fits -/
  registrations : ∀ registration : Registration,
    (Request.posting "/api/v1/users" registration.values).Fits →
      (Request.posting "/api/v1/users" registration.values).Wants (.registration registration)
  /-- an account can be asked for with any opening balance of 64 bits, or without one -/
  openings : ∀ (owner currency : String) {balance? : Option Int}, (∀ balance ∈ balance?, IsBigint balance) →
    (Request.posting "/api/v1/accounts" (AccountOpening.values owner currency balance?)).Fits →
      (Request.posting "/api/v1/accounts" (AccountOpening.values owner currency balance?)).Wants
        (.opening ⟨owner, currency, balance?.getD 0⟩)
  /-- every payment of numbers of 64 bits can be posted -/
  payments : ∀ {payment : Payment}, IsBigint payment.order.fromAccount → IsBigint payment.order.toAccount →
    IsBigint payment.order.amount → (Request.posting "/api/v1/transfers" payment.values).Fits →
      (Request.posting "/api/v1/transfers" payment.values).Wants (.payment payment)
  pages : ∀ {page : AccountPage}, IsBigint page.number → IsBigint page.size →
    (Request.getting "/api/v1/accounts" page.values).Wants (.page page)
  confirmations : ∀ {confirmation : Confirmation}, IsBigint confirmation.recordId →
    (Request.getting "/api/v1/verify_email" confirmation.values).Wants (.confirmation confirmation)
  /-- whatever is answered, a request is refused or passed on -/
  treated : ∀ {request : Request} {wish : Wish}, request.Wants wish →
    ∀ {σ : Type} (surroundings : (action : Action) → σ → action.Answer × σ),
      (∀ state, (surroundings .salt state).1.length = 16) → ∀ state : σ,
        Treated limit wish ((respond limit request).history surroundings state)
          ((respond limit request).run surroundings state).1

theorem rules_decide (limit : Nat) : RulesDecide limit where
  registrations registration hfits := .registration (Request.isPost_posting (by decide +kernel) _)
    (Request.bodyRecord_posting hfits (by decide) registration.has_values registration.build_values)
  openings owner currency _ h hfits := .opening (Request.isPost_posting (by decide +kernel) _)
    (Request.bodyRecord_posting hfits (by decide)
      (AccountOpening.has_values fun balance hbalance => AccountPage.signed64_holds.mpr (h balance hbalance))
      (AccountOpening.build_values owner currency _))
  payments {payment} hfrom hto hamount hfits := .payment (Request.isPost_posting (by decide +kernel) _)
    (Request.bodyRecord_posting hfits (by decide)
      (Payment.has_values (AccountPage.signed64_holds.mpr hfrom) (AccountPage.signed64_holds.mpr hto)
        (AccountPage.signed64_holds.mpr hamount)) payment.build_values)
  pages hnumber hsize := .page (Request.lists_getting hnumber hsize)
  confirmations hid := .confirmation rfl
    (congrArg Prod.fst (Request.resource_getting (by decide +kernel) _))
    (Confirmation.queryRecord_getting (AccountPage.signed64_holds.mpr hid))
  treated {request wish} h σ surroundings hsalt state := by
    refine (h.respond_keeps limit).run surroundings state fun salt hmem => ?_
    obtain ⟨before, hanswer⟩ := Program.answered_of_mem surroundings (respond limit request) state hmem
    exact (congrArg List.length hanswer).trans (hsalt before)

/-- Surroundings in which nothing fails and nothing is found. -/
def nothingFails (action : Action) (state : Unit) : action.Answer × Unit :=
  match action with
  | .checkout => (.ok (), state)
  | .release _ => ((), state)
  | .send _ => (.ok ⟨[], 0⟩, state)
  | .sendWithin .. => (.inTime 0 (.ok ⟨[], 0⟩), state)
  | .clock => (⟨0⟩, state)
  | .announce .. => (.ok (), state)
  | .salt => (List.replicate 16 0, state)
  | .codeDraws => ([], state)
  | .deliver _ => (.ok (), state)

theorem nothingFails_bars (service : Service Response) :
    ∀ event ∈ service.history nothingFails (), ¬Event.Bars event := by
  rintro ⟨action, answer⟩ hevent
  obtain ⟨state, hanswer⟩ := Program.answered_of_mem nothingFails service () hevent
  change answer = (nothingFails action state).1 at hanswer
  subst hanswer
  cases action with
  | send command => cases command <;> exact id
  | _ => exact id

/-- Alice, who has a name, a password and an address. -/
def alice : Registration := ⟨"alice", "secret", "Alice Liddell", "alice@example.com"⟩

/-- An account in yen is refused. One in euros that is asked for without an opening balance is passed on
with none, and a registration with a digest of its password. -/
theorem rules_decide_alice :
    ((respond 5000 (Request.posting "/api/v1/accounts" (AccountOpening.values "alice" "JPY" (some (-1))))).run
        nothingFails ()).1 =
      (⟨400, "invalid_request", "currency JPY is not supported"⟩ : Notice).response ∧
    (∃ statement rest,
      statements ((respond 5000 (Request.posting "/api/v1/accounts"
        (AccountOpening.values "alice" "EUR" none))).history nothingFails ()) = statement :: rest ∧
      statement.params = [.text "alice", .int 0, .text "EUR"]) ∧
    ∃ statement rest digest,
      statements ((respond 5000 (Request.posting "/api/v1/users" alice.values)).history nothingFails ()) =
        statement :: rest ∧
      statement.params = [.text "alice", .text digest, .text "Alice Liddell", .text "alice@example.com"] ∧
      Password.verify "secret" digest = true := by
  have hyen := @(rules_decide 5000).openings "alice" "JPY" (some (-1)) (by decide)
    (by decide +kernel)
  have heuros := @(rules_decide 5000).openings "alice" "EUR" none (by decide)
    (by decide +kernel)
  have halice := (rules_decide 5000).registrations alice (by decide +kernel)
  refine ⟨?_, ?_, ?_⟩
  · have hbroken : FirstBroken (Wish.opening ⟨"alice", "JPY", -1⟩).rules _ :=
      .here (show "JPY" ∉ ["USD", "EUR", "CAD"] by decide)
    exact (((rules_decide 5000).treated hyen nothingFails (fun _ => rfl) ()).refused hbroken).2.1
  · have htreated := (rules_decide 5000).treated heuros nothingFails (fun _ => rfl) ()
    have hkept : ∀ rule ∈ (Wish.opening ⟨"alice", "EUR", 0⟩).rules, rule.Kept :=
      (AccountOpening.check_enforces ⟨"alice", "EUR", 0⟩).kept_of_ok rfl
    obtain ⟨statement, rest, hstatements⟩ :=
      List.exists_cons_of_ne_nil (htreated.attempted hkept (nothingFails_bars _))
    refine ⟨statement, rest, hstatements, ?_⟩
    have hbinds := htreated.binds hstatements
    generalize statement.params = params at hbinds
    cases hbinds
    rfl
  · have htreated := (rules_decide 5000).treated halice nothingFails (fun _ => rfl) ()
    have hkept : ∀ rule ∈ (Wish.registration alice).rules, rule.Kept :=
      alice.check_enforces.kept_of_ok (by decide +kernel : alice.check = .ok ())
    obtain ⟨statement, rest, hstatements⟩ :=
      List.exists_cons_of_ne_nil (htreated.attempted hkept (nothingFails_bars _))
    have hbinds := htreated.binds hstatements
    generalize hparams : statement.params = params at hbinds
    cases hbinds with
    | @registration _ digest hverify => exact ⟨statement, rest, digest, hstatements, hparams, hverify⟩

end Http
end Passbook
