import Passbook.Proofs.Database.AsWritten
import Passbook.Proofs.Database.Server
import Passbook.Proofs.Http.Screening
import Passbook.Proofs.Record.Query
import Passbook.Proofs.Record.Shown

/-!
# Pages of the list of accounts

The list of the accounts of an owner is shown page by page. Two checks stand in front of the statement:
the number and the size of the page have to be admitted, and the accounts to be left out have to be a
number of 64 bits. Together they refuse a page exactly if it starts before the first or behind the last
account that can be numbered, or if it is not of five to ten accounts. What is sent for any other page
names the size and the exact product.

A database that gives the rows of a section in the order of their numbers shows with the first pages the
first accounts, each of them once, and its answer is the text of the list of these accounts.
-/
namespace Passbook

open Service (Action Event sent)

namespace AccountPage

variable {page : AccountPage}

def skipped (page : AccountPage) : Int := (page.number - 1) * page.size

def Refused (page : AccountPage) : Prop :=
  page.number < 1 ∨ page.size < 5 ∨ 10 < page.size ∨ 2 ^ 63 - 1 < page.skipped

theorem signed64_holds {n : Int} : IntegerRange.signed64.holds n = true ↔ IsBigint n := by
  rw [IntegerRange.holds, Bool.and_eq_true, decide_eq_true_eq, decide_eq_true_eq]
  change -2 ^ 63 ≤ n ∧ n ≤ 2 ^ 63 - 1 ↔ IsBigint n
  rw [IsBigint, Int.le_sub_one_iff]

theorem window_eq_ok (hpages : IsBigint (page.number - 1)) (hskipped : IsBigint page.skipped) :
    page.window = .ok ⟨page.size, page.skipped⟩ :=
  if_pos (Bool.and_eq_true_iff.mpr ⟨signed64_holds.mpr hpages, signed64_holds.mpr hskipped⟩)

theorem window_eq_error (h : ¬(IsBigint (page.number - 1) ∧ IsBigint page.skipped)) :
    page.window = .error (.pageOutOfRange page.number) := by
  refine if_neg fun hboth => h ?_
  rw [Bool.and_eq_true] at hboth
  exact ⟨signed64_holds.mp hboth.1, signed64_holds.mp hboth.2⟩

/-- A difference that is a number of 64 bits is the difference of the machine. -/
theorem toInt_sub_one {n : Int64} (h : IsBigint (n.toInt - 1)) : (n - 1).toInt = n.toInt - 1 := by
  obtain ⟨hlow, hhigh⟩ := h
  rw [Int64.toInt_sub, Int64.toInt_one]
  exact Int.bmod_eq_of_le (by omega) (by omega)

theorem toInt_mul {n m : Int64} (h : IsBigint (n.toInt * m.toInt)) : (n * m).toInt = n.toInt * m.toInt := by
  obtain ⟨hlow, hhigh⟩ := h
  rw [Int64.toInt_mul]
  exact Int.bmod_eq_of_le (by omega) (by omega)

/-- The numbers of an admitted page are small enough for both checks. -/
theorem bounds_of_not_refused (h : ¬page.Refused) :
    IsBigint (page.number - 1) ∧ 0 ≤ page.skipped ∧ page.skipped < 2 ^ 63 := by
  simp only [Refused, not_or, Int.not_lt] at h
  obtain ⟨hnumber, hsize, -, hskipped⟩ := h
  have hpages : 0 ≤ page.number - 1 := by omega
  have hnonneg : 0 ≤ page.skipped := Int.mul_nonneg hpages (by omega)
  -- Each page has an account at least, so fewer pages than accounts are left out.
  have hle : page.number - 1 ≤ page.skipped := le_mul_of_one_le_right hpages (by omega)
  have hlt : page.skipped < 2 ^ 63 := by omega
  exact ⟨⟨by omega, by omega⟩, hnonneg, hlt⟩

theorem checkedWindow_of_not_refused (h : ¬page.Refused) :
    page.checkedWindow = .ok ⟨page.size, page.skipped⟩ := by
  obtain ⟨hpages, hnonneg, hlt⟩ := bounds_of_not_refused h
  have hwindow : page.window = .ok ⟨page.size, page.skipped⟩ := window_eq_ok hpages ⟨by omega, hlt⟩
  simp only [Refused, not_or, Int.not_lt] at h
  obtain ⟨hnumber, hsize, hsize', -⟩ := h
  simp only [checkedWindow, Field.page, Field.require, hnumber, hsize, hsize', hwindow, decide_true,
    Bool.and_self, if_true]
  rfl

theorem checkedWindow_of_refused (h : page.Refused) : ∃ fault, page.checkedWindow = .error fault := by
  by_cases hnumber : 1 ≤ page.number
  case neg => exact ⟨.pageNumber, by simp [checkedWindow, Field.page, Field.require, hnumber]; rfl⟩
  case pos =>
    by_cases hsize : 5 ≤ page.size ∧ page.size ≤ 10
    case neg =>
      refine ⟨.pageSize, ?_⟩
      simp only [checkedWindow, Field.page, Field.require, hnumber, ← Bool.decide_and, hsize]
      rfl
    case pos =>
      have hskipped : ¬IsBigint page.skipped := by
        simp only [Refused, IsBigint] at h ⊢
        omega
      refine ⟨.pageOutOfRange page.number, ?_⟩
      simp only [checkedWindow, Field.page, Field.require, hnumber, hsize.1, hsize.2,
        window_eq_error fun hboth => hskipped hboth.2]
      rfl

end AccountPage

namespace Service

theorem reported_pooled {α : Type} (query : Query α) :
    reported (pooled query) = .ask .checkout fun opened =>
      match opened with
      | .error fault => .done (.error (.failed (.ofFault fault)))
      | .ok () =>
          .ask (.send (.statement query.statement)) fun outcome => .ask (.release false) fun () =>
            .done ((query.result outcome).mapError .failed) := by
  refine congrArg (Program.ask Action.checkout) (funext fun opened => ?_)
  cases opened <;> rfl

/-- Whether what was asked for is a connection and, once there is one, a single statement on it. -/
inductive Pooled (statement : Statement) : List Event → Prop
  | unconnected (fault : StorageFault) : Pooled statement [⟨.checkout, .error fault⟩]
  | sent (outcome : Except StorageFault Answer) : Pooled statement
      [⟨.checkout, .ok ()⟩, ⟨.send (.statement statement), outcome⟩, ⟨.release false, ()⟩]

end Service

theorem Failure.ofFault_ne_invalidTransfer (fault : StorageFault) (reason : String) :
    Failure.ofFault fault ≠ .invalidTransfer reason := by
  intro h
  have hmeans := fault.means_ofFault
  rw [h] at hmeans
  exact hmeans

namespace Http

/-- A fault of the storage is never reported as a bad request. -/
theorem Problem.status_ofFault (fault : StorageFault) :
    (Problem.failed (.ofFault fault)).response.status ≠ 400 := by
  have hne := Failure.ofFault_ne_invalidTransfer fault
  change (Notice.ofFailure (.ofFault fault)).status ≠ 400
  cases hfailure : Failure.ofFault fault with
  | invalidTransfer reason => exact absurd hfailure (hne reason)
  | _ => simp [Notice.ofFailure, Notice.internalError]

/-- Whether a request asks for a page of the list of accounts. -/
structure Request.Lists (request : Request) (page : AccountPage) : Prop where
  method : request.method = "GET"
  path : request.path = "/api/v1/accounts".toList
  read : request.queryRecord AccountPage.shape = .ok page

def listed (result : Except Problem (List Account)) : Response :=
  match result with
  | .ok accounts => .json 200 (accountsJson accounts)
  | .error problem => problem.response

theorem Request.Lists.respond_eq {request : Request} {page : AccountPage} (h : request.Lists page)
    (limit : Nat) : respond limit request = page.accounts.bind fun result => .done (listed result) := by
  rw [respond_eq_serve limit .listAccounts h.method h.path (by decide +kernel) (by decide), serve, h.read]
  refine congrArg page.accounts.bind (funext fun result => ?_)
  cases result <;> rfl

/-- What a request for a page comes to: a refusal before anything is asked for, or one statement. -/
structure Paged (page : AccountPage) (past : List Event) (response : Response) : Prop where
  refused : response.status = 400 ∧ sent past = [] ↔ page.Refused
  untouched : page.Refused → past = []
  fetched : ¬page.Refused → Service.Pooled (.selectAccounts page.owner ⟨page.size, page.skipped⟩) past ∧
    0 ≤ page.skipped ∧ page.skipped < 2 ^ 63

theorem Paged.of_fetched {page : AccountPage} {past : List Event} {response : Response} (h : ¬page.Refused)
    (hfetched : Service.Pooled (.selectAccounts page.owner ⟨page.size, page.skipped⟩) past)
    (hstatus : response.status ≠ 400) :
    Paged page past response where
  refused := ⟨fun hbad => absurd hbad.1 hstatus, fun hrefused => absurd hrefused h⟩
  untouched hrefused := absurd hrefused h
  fetched _ := ⟨hfetched, (AccountPage.bounds_of_not_refused h).2⟩

/-- Whatever the surroundings answer, a request for a page is refused or sends one statement. -/
theorem Request.Lists.respond_keeps {request : Request} {page : AccountPage} (h : request.Lists page)
    (limit : Nat) : (respond limit request).Keeps (fun _ _ => True) (Paged page) [] := by
  rw [h.respond_eq limit]
  by_cases hrefused : page.Refused
  case pos =>
    obtain ⟨fault, hfault⟩ := AccountPage.checkedWindow_of_refused hrefused
    rw [AccountPage.accounts, hfault]
    exact ⟨iff_of_true ⟨rfl, rfl⟩ hrefused, fun _ => rfl, fun hnot => absurd hrefused hnot⟩
  case neg =>
    rw [AccountPage.accounts, AccountPage.checkedWindow_of_not_refused hrefused, Service.checked,
      Service.reported_pooled]
    refine ⟨trivial, fun opened => ?_⟩
    cases opened with
    | error fault => exact .of_fetched hrefused (.unconnected fault) (Problem.status_ofFault fault)
    | ok opened =>
        refine ⟨trivial, fun outcome => ⟨trivial, fun _ => ?_⟩⟩
        refine .of_fetched hrefused (.sent outcome) ?_
        cases hresult : (Query.accounts page.owner ⟨page.size, page.skipped⟩).result outcome with
        | ok accounts => exact (by decide : 200 ≠ 400)
        | error failure =>
            obtain ⟨fault, rfl⟩ := Query.result_eq_error hresult
            exact Problem.status_ofFault fault

end Http

/-- The sections of a size make up the beginning of a list. -/
theorem flatMap_sections {α : Type} (rows : List α) (size count : Nat) :
    ((List.range count).flatMap fun n => (rows.drop (n * size)).take size) = rows.take (count * size) := by
  induction count with
  | zero => rw [Nat.zero_mul]; rfl
  | succ count ih =>
      rw [List.range_succ, List.flatMap_append, ih, List.flatMap_singleton, Nat.succ_mul, List.take_add]

namespace Database

/-- The accounts of an owner in the order of their numbers. -/
def accountsOf (db : Database) (owner : String) : List Account :=
  (db.accounts.rows.filter fun account => account.owner = owner).mergeSort fun a b => a.id ≤ b.id

/-- The accounts that a page shows: of those of its owner, as many as the page has room for, behind those
that come before the page. -/
def shown (db : Database) (page : AccountPage) : List Account :=
  ((db.accountsOf page.owner).drop page.skipped.toNat).take page.size.toNat

/-- All accounts of the owner and no others are listed, by their numbers, and none comes twice. -/
theorem accountsOf_pairwise (db : Database) (owner : String) :
    (db.accountsOf owner).Pairwise fun a b => a.id < b.id := by
  have hsorted : (db.accountsOf owner).Pairwise fun a b => a.id ≤ b.id := by
    have h := @List.pairwise_mergeSort Account (fun a b => decide (a.id ≤ b.id))
      (fun a b c hab hbc => by simp only [decide_eq_true_eq] at *; omega)
      (fun a b => by simp only [Bool.or_eq_true, decide_eq_true_eq]; omega)
      (db.accounts.rows.filter fun account => account.owner = owner)
    exact h.imp fun hle => of_decide_eq_true hle
  have hdistinct : (db.accountsOf owner).Pairwise fun a b => a.id ≠ b.id := by
    have hfilter : ((db.accounts.rows.filter fun account => account.owner = owner).map Account.id).Nodup :=
      db.accounts.distinct.sublist (List.Sublist.map _ List.filter_sublist)
    have hperm := (List.mergeSort_perm (db.accounts.rows.filter fun account => account.owner = owner)
      fun a b => a.id ≤ b.id).map Account.id
    exact List.pairwise_map.mp (hperm.nodup_iff.mpr hfilter)
  exact (hsorted.and hdistinct).imp fun h => lt_of_le_of_ne h.1 h.2

theorem mem_accountsOf {db : Database} {owner : String} {account : Account} :
    account ∈ db.accountsOf owner ↔ account ∈ db.accounts.rows ∧ account.owner = owner := by
  rw [accountsOf, List.mem_mergeSort, List.mem_filter, decide_eq_true_eq]

/-- A list of accounts that is in order is the list of an owner if it has the same accounts. -/
theorem accountsOf_eq {db : Database} {owner : String} {accounts : List Account}
    (hsorted : accounts.Pairwise fun a b => a.id < b.id)
    (hperm : accounts.Perm (db.accounts.rows.filter fun account => account.owner = owner)) :
    db.accountsOf owner = accounts :=
  ((List.mergeSort_perm _ _).trans hperm.symm).eq_of_pairwise
    (fun _ _ _ _ hab hba => absurd hab (Int.lt_asymm hba)) (db.accountsOf_pairwise owner) hsorted

/-- The first pages together show the first accounts. -/
theorem flatMap_shown (db : Database) (owner : String) {size : Int} (hsize : 0 ≤ size) (count : Nat) :
    ((List.range count).flatMap fun n : Nat => db.shown ⟨owner, n + 1, size⟩) =
      (db.accountsOf owner).take (count * size.toNat) := by
  rw [← flatMap_sections]
  refine List.flatMap_congr fun n _ => ?_
  have hskipped : (AccountPage.skipped ⟨owner, n + 1, size⟩).toNat = n * size.toNat := by
    obtain ⟨size, rfl⟩ := Int.eq_ofNat_of_zero_le hsize
    rw [AccountPage.skipped, Int.add_sub_cancel]
    rfl
  rw [shown, hskipped]

theorem execute_selectAccounts (db : Database) (stamp : Stamp) {page : AccountPage} (hsize : 0 ≤ page.size)
    (hskipped : 0 ≤ page.skipped) :
    db.execute stamp (.selectAccounts page.owner ⟨page.size, page.skipped⟩) =
      .ok (⟨(db.shown page).map Account.toRow, 0⟩, .none) := by
  rw [execute, Database.page, if_neg (by simpa using hsize), if_neg (by simpa using hskipped)]
  rfl

end Database

theorem Account.mapM_ofRow (accounts : List Account) :
    (accounts.map Account.toRow).mapM Account.ofRow = .ok accounts := by
  induction accounts with
  | nil => rfl
  | cons account accounts ih =>
      rw [List.map_cons, List.mapM_cons, Account.ofRow_toRow, ih]
      rfl

namespace Http

variable {outside : (action : Action) → action.Answer}

/-- A server answers a request for a page with what the page shows, and stays as it is. -/
theorem Request.Lists.run_server {request : Request} {page : AccountPage} (h : request.Lists page)
    (hshown : ¬page.Refused) (limit : Nat) {s : Server} (hidle : s.pending? = none) :
    (respond limit request).run (Server.surroundings outside) s =
      (.json 200 (accountsJson (s.committed.shown page)), s) := by
  obtain ⟨-, hskipped, -⟩ := AccountPage.bounds_of_not_refused hshown
  have hsize : 0 ≤ page.size := by
    simp only [AccountPage.Refused, not_or, Int.not_lt] at hshown
    omega
  have hexecute : s.execute (.selectAccounts page.owner ⟨page.size, page.skipped⟩) =
      (.ok ⟨(s.committed.shown page).map Account.toRow, 0⟩, s) := by
    obtain ⟨committed, pending?, sequences, now⟩ := s
    cases hidle
    simp only [Server.execute, Server.attempt, Sequences.draw,
      Database.execute_selectAccounts _ _ hsize hskipped, Except.map, Effect.apply]
  have hresult : (Query.accounts page.owner ⟨page.size, page.skipped⟩).result
      (.ok ⟨(s.committed.shown page).map Account.toRow, 0⟩) = .ok (s.committed.shown page) := by
    simp only [Query.result, Query.accounts, Answer.all, Account.mapM_ofRow]
  rw [h.respond_eq limit, AccountPage.accounts, AccountPage.checkedWindow_of_not_refused hshown,
    Service.checked, Service.reported_pooled]
  simp only [Program.ask_bind, Program.done_bind, Program.run, Server.surroundings, Server.send]
  rw [show (Query.accounts page.owner ⟨page.size, page.skipped⟩).statement =
    .selectAccounts page.owner ⟨page.size, page.skipped⟩ from rfl, hexecute]
  simp only [hresult, Except.mapError, listed, Bool.false_eq_true, if_false]

/-- Whether a response is the list of these accounts, with all that is known of each. -/
structure Response.Tells (response : Response) (accounts : List Account) : Prop where
  status : response.status = 200
  contentType : response.contentType = some "application/json"
  body : response.body = (Json.Value.array (accounts.map fun account => .object
    [("id", .int account.id), ("owner", .ofString account.owner), ("balance", .int account.balance),
      ("currency", .ofString account.currency), ("created_at", .text account.createdAt.chars)])).render
  /-- the list is read back from the body -/
  read : (∀ account ∈ accounts, ∀ n ∈ account.integers, IsBigint n) →
    Json.read (Utf8.encode response.body.toList) = .ok (.array (accounts.map fun account => .object
      [("id", .int account.id), ("owner", .ofString account.owner), ("balance", .int account.balance),
        ("currency", .ofString account.currency), ("created_at", .text account.createdAt.chars)]))

theorem Response.tells_json (accounts : List Account) :
    (Response.json 200 (accountsJson accounts)).Tells accounts where
  status := rfl
  contentType := rfl
  body := rfl
  read hbigint := by
    have hfits : (accountsJson accounts).Fits := .array <| List.forall_mem_map.mpr fun account haccount =>
      account.fits_json (hbigint account haccount)
    exact hfits.read_render

theorem Request.lists_getting {page : AccountPage} (hnumber : IsBigint page.number)
    (hsize : IsBigint page.size) : (Request.getting "/api/v1/accounts" page.values).Lists page where
  method := rfl
  path := congrArg Prod.fst (Request.resource_getting (by decide +kernel) page.values)
  read := AccountPage.queryRecord_getting (AccountPage.signed64_holds.mpr hnumber)
    (AccountPage.signed64_holds.mpr hsize)

/-- What paging comes to. -/
structure PagesExact (limit : Nat) : Prop where
  /-- every page of numbers of 64 bits can be asked for -/
  asked : ∀ {page : AccountPage}, IsBigint page.number → IsBigint page.size →
    (Request.getting "/api/v1/accounts" page.values).Lists page
  /-- a page is refused, or its statement names the exact product -/
  paged : ∀ {request : Request} {page : AccountPage}, request.Lists page →
    ∀ {σ : Type} (surroundings : (r : Action) → σ → r.Answer × σ) (state : σ),
      Paged page ((respond limit request).history surroundings state)
        ((respond limit request).run surroundings state).1
  /-- the statement asks for the accounts of the owner by number, a limit of them behind an offset, and a
  database carries it out as it is written -/
  written : ∀ (owner : String) (window : Window) (db : Database) (stamp : Stamp),
    (Statement.selectAccounts owner window).params = [.text owner, .int window.limit, .int window.offset] ∧
      db.CarriesOut stamp (.selectAccounts owner window)
        (.select .accounts (.equals "owner" 1) (.section "id" 2 3))
  /-- a database that lists sections by number is answered from -/
  shown : ∀ {request : Request} {page : AccountPage}, request.Lists page → ¬page.Refused →
    ∀ (outside : (action : Action) → action.Answer) (s : Server), s.pending? = none →
      ((respond limit request).run (Server.surroundings outside) s).1.Tells (s.committed.shown page) ∧
        ((respond limit request).run (Server.surroundings outside) s).2 = s
  /-- the accounts of the owner, none of them twice -/
  ordered : ∀ (db : Database) (owner : String),
    ((db.accountsOf owner).Pairwise fun a b => a.id < b.id) ∧
      ∀ account, account ∈ db.accountsOf owner ↔ account ∈ db.accounts.rows ∧ account.owner = owner
  /-- the first pages make up the beginning of the list -/
  together : ∀ (db : Database) (owner : String) {size : Int}, 5 ≤ size → size ≤ 10 → ∀ count : Nat,
    ((List.range count).flatMap fun n : Nat => db.shown ⟨owner, n + 1, size⟩) =
      (db.accountsOf owner).take (count * size.toNat)
  /-- and so do the lists that are answered for these pages, one behind the other -/
  answered : ∀ (outside : (action : Action) → action.Answer) (s : Server), s.pending? = none →
    ∀ (owner : String) {size : Int}, 5 ≤ size → size ≤ 10 → ∀ count : Nat,
      (∀ n < count, ¬AccountPage.Refused ⟨owner, n + 1, size⟩) →
        ∃ lists : Nat → List Account,
          (∀ n < count, ∀ request : Request, request.Lists ⟨owner, n + 1, size⟩ →
            ((respond limit request).run (Server.surroundings outside) s).1.Tells (lists n)) ∧
          (List.range count).flatMap lists = (s.committed.accountsOf owner).take (count * size.toNat)
  /-- the section is found if its numbers fit, and then the machine computes them -/
  found : ∀ (owner : String) (number size : Int64),
    IsBigint (number.toInt - 1) → IsBigint ((number.toInt - 1) * size.toInt) →
      AccountPage.window ⟨owner, number.toInt, size.toInt⟩ = .ok ⟨size.toInt, ((number - 1) * size).toInt⟩ ∧
        ((number - 1) * size).toInt = (number.toInt - 1) * size.toInt
  /-- and it is not found otherwise -/
  outOfRange : ∀ (owner : String) (number size : Int64),
    ¬(IsBigint (number.toInt - 1) ∧ IsBigint ((number.toInt - 1) * size.toInt)) →
      AccountPage.window ⟨owner, number.toInt, size.toInt⟩ = .error (.pageOutOfRange number.toInt)

theorem Request.Lists.tells {request : Request} {page : AccountPage} (h : request.Lists page)
    (hshown : ¬page.Refused) (limit : Nat) {s : Server} (hidle : s.pending? = none) :
    ((respond limit request).run (Server.surroundings outside) s).1.Tells (s.committed.shown page) := by
  rw [h.run_server hshown limit hidle]
  exact Response.tells_json _

theorem pages_exact (limit : Nat) : PagesExact limit where
  asked := Request.lists_getting
  paged h _ surroundings state := (h.respond_keeps limit).run surroundings state
  written owner window db _ := ⟨rfl, db.carriesOut_selectAccounts owner window⟩
  shown h hshown _ _ hidle := ⟨h.tells hshown limit hidle, congrArg Prod.snd (h.run_server hshown limit hidle)⟩
  ordered db owner := ⟨db.accountsOf_pairwise owner, fun _ => Database.mem_accountsOf⟩
  together db owner _ hsize _ := db.flatMap_shown owner (by omega)
  answered _ s hidle owner size hsize _ count hshown :=
    ⟨fun n => s.committed.shown ⟨owner, n + 1, size⟩, fun n hn _ h => h.tells (hshown n hn) limit hidle,
      s.committed.flatMap_shown owner (by omega) count⟩
  found owner number size hpages hskipped := by
    have hproduct : ((number - 1) * size).toInt = (number.toInt - 1) * size.toInt := by
      rw [← AccountPage.toInt_sub_one hpages] at hskipped ⊢
      exact AccountPage.toInt_mul hskipped
    rw [hproduct]
    exact ⟨AccountPage.window_eq_ok hpages hskipped, rfl⟩
  outOfRange _ _ _ h := AccountPage.window_eq_error h

/-- The accounts of Alice, and one of Bob among them, as they were stored. -/
def sevenAccounts : List Account :=
  [⟨4, "alice", 400, "GBP", ⟨0⟩⟩, ⟨2, "alice", 200, "EUR", ⟨0⟩⟩, ⟨3, "bob", 7, "EUR", ⟨0⟩⟩,
    ⟨7, "alice", 700, "JPY", ⟨0⟩⟩, ⟨1, "alice", 100, "USD", ⟨0⟩⟩, ⟨5, "alice", 500, "CAD", ⟨0⟩⟩,
    ⟨6, "alice", 600, "CHF", ⟨0⟩⟩]

def ledger : Server := { committed := { accounts := ⟨sevenAccounts, by decide⟩ } }

/-- What the ledger answers to a request for a page. -/
def ledgerPage (page : AccountPage) : Response :=
  ((respond 5000 (Request.getting "/api/v1/accounts" page.values)).run
    (Server.surroundings Server.calm) ledger).1

/-- The last page of five that starts at an account which can be numbered. -/
def lastPage : AccountPage := ⟨"alice", 1844674407370955162, 5⟩

def pageBehind : AccountPage := ⟨"alice", 1844674407370955163, 5⟩

/-- Six accounts come on two pages, in the order of their numbers. The last page of all is empty, and there
is none behind it. -/
theorem pages_exact_ledger :
    (ledgerPage ⟨"alice", 1, 5⟩).body = "[" ++
      "\x7b\"id\":1,\"owner\":\"alice\",\"balance\":100,\"currency\":\"USD\"," ++
        "\"created_at\":\"1970-01-01T00:00:00Z\"\x7d," ++
      "\x7b\"id\":2,\"owner\":\"alice\",\"balance\":200,\"currency\":\"EUR\"," ++
        "\"created_at\":\"1970-01-01T00:00:00Z\"\x7d," ++
      "\x7b\"id\":4,\"owner\":\"alice\",\"balance\":400,\"currency\":\"GBP\"," ++
        "\"created_at\":\"1970-01-01T00:00:00Z\"\x7d," ++
      "\x7b\"id\":5,\"owner\":\"alice\",\"balance\":500,\"currency\":\"CAD\"," ++
        "\"created_at\":\"1970-01-01T00:00:00Z\"\x7d," ++
      "\x7b\"id\":6,\"owner\":\"alice\",\"balance\":600,\"currency\":\"CHF\"," ++
        "\"created_at\":\"1970-01-01T00:00:00Z\"\x7d]" ∧
    (ledgerPage ⟨"alice", 2, 5⟩).body =
      "[\x7b\"id\":7,\"owner\":\"alice\",\"balance\":700,\"currency\":\"JPY\"," ++
        "\"created_at\":\"1970-01-01T00:00:00Z\"\x7d]" ∧
    (ledgerPage lastPage).body = "[]" ∧ (ledgerPage pageBehind).status = 400 := by
  have hsorted : ledger.committed.accountsOf "alice" =
      [⟨1, "alice", 100, "USD", ⟨0⟩⟩, ⟨2, "alice", 200, "EUR", ⟨0⟩⟩, ⟨4, "alice", 400, "GBP", ⟨0⟩⟩,
        ⟨5, "alice", 500, "CAD", ⟨0⟩⟩, ⟨6, "alice", 600, "CHF", ⟨0⟩⟩, ⟨7, "alice", 700, "JPY", ⟨0⟩⟩] :=
    Database.accountsOf_eq (by decide) (by decide)
  have hbody : ∀ page : AccountPage, IsBigint page.number → IsBigint page.size → ¬page.Refused →
      (ledgerPage page).Tells (ledger.committed.shown page) := by
    intro page hnumber hsize hshown
    exact ((pages_exact 5000).shown ((pages_exact 5000).asked hnumber hsize) hshown Server.calm ledger rfl).1
  have hfirst := hbody ⟨"alice", 1, 5⟩ (by decide) (by decide) (by unfold AccountPage.Refused; decide)
  have hsecond := hbody ⟨"alice", 2, 5⟩ (by decide) (by decide) (by unfold AccountPage.Refused; decide)
  have hlast := hbody lastPage (by decide) (by decide) (by unfold AccountPage.Refused; decide)
  have hbehind := @(pages_exact 5000).asked pageBehind (by decide) (by decide)
  have hrefused : pageBehind.Refused := by
    unfold AccountPage.Refused
    decide
  refine ⟨?_, ?_, ?_, ?_⟩
  · rw [hfirst.body, Database.shown, hsorted]
    refine String.toList_inj.mp ?_
    simp only [Json.Value.render, String.toList_ofList, String.toList_append]
    decide +kernel
  · rw [hsecond.body, Database.shown, hsorted]
    refine String.toList_inj.mp ?_
    simp only [Json.Value.render, String.toList_ofList, String.toList_append]
    decide +kernel
  · rw [hlast.body, Database.shown, show lastPage.owner = "alice" from rfl, hsorted]
    decide +kernel
  · exact (((pages_exact 5000).paged hbehind _ _).refused.mpr hrefused).1

end Http
end Passbook
