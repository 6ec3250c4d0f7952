import Passbook.Proofs.Http.Screening
import Passbook.Proofs.Mail.Link
import Passbook.Worker

/-!
# What a task comes to

A task reads its user and stores a record for the address of that user, with a code of 32 letters and
digits. Whatever fails, nothing that comes behind it is attempted, and nothing is attempted again. The
record is mailed to the address that it names if both statements have given whole rows and the base of
the link is a URL, and only then. The statements stand for themselves: no transaction is begun.

All this holds at every moment of the work on a task, whatever is answered to it, as long as a code that
is drawn has all its places.
-/
namespace Passbook

open Service (Action Event sent)

namespace SecretCode

/-- Whether a text is a code: 32 letters and digits of ASCII. -/
def IsCode (code : String) : Prop :=
  code.toList.length = 32 ∧ ∀ c ∈ code.toList, c.isAlphanum = true

theorem isAlphanum_character : ∀ n : Fin 62, (character n).isAlphanum = true := by
  decide

theorem isCode_ofDraws {draws : List (Fin 62)} (h : draws.length = Verification.codeLength) :
    IsCode (ofDraws draws) := by
  refine ⟨(length_ofDraws draws).trans h, fun c hc => ?_⟩
  rw [ofDraws, String.toList_ofList] at hc
  obtain ⟨n, -, rfl⟩ := List.mem_map.mp hc
  exact isAlphanum_character n

end SecretCode

namespace Mail

/-- Whether a message asks a user to follow a link with the number and the code of a record, on top of
some URL, and goes to the address of the record alone. -/
structure Asks (url : Url) (user : User) (record : Verification) (message : Message) : Prop where
  recipients : message.recipients = [record.email]
  link : ∃ link query, Offers user.fullName link message.content ∧ Url.queryText link = some query ∧
    Form.pairs (Utf8.encode query) = url.queryPairs ++
      [("email_id".toList, Decimal.ofInt record.id), ("secret_code".toList, record.secretCode.toList)]

variable {user : User} {record : Verification} {base : String} {url : Url}

theorem welcome_eq_ok (hbase : Url.read base.toList = .ok url) :
    ∃ message, welcome user record base = .ok message ∧ Asks url user record message := by
  let linked := url.withPairs (linkPairs record)
  have hplaced : linked.Placed := (Url.read_placed hbase).withPairs (linkPairs record)
  have hpairs := url.queryPairs_withPairs (linkPairs record)
  have hwelcome : welcome user record base = .ok
      { subject := "Welcome to Bank Ledger"
        content := welcomeContent user.fullName linked.chars
        recipients := [record.email] } := by
    rw [welcome, link, hbase]
    rfl
  exact ⟨_, hwelcome, rfl, linked.chars, _, welcomeContent_offers _ _, hplaced.queryText_chars, hpairs⟩

theorem welcome_eq_error {fault : UrlFault} (hbase : Url.read base.toList = .error fault) :
    welcome user record base = .error fault := by
  rw [welcome, link, hbase]
  rfl

end Mail

/-- Whether a code has been drawn with all its places, if this is a draw. -/
def Service.Event.Drawn (event : Event) : Prop :=
  ∀ draws, event = ⟨.codeDraws, draws⟩ → draws.length = Verification.codeLength

/-- What came back for a command. -/
def Service.Event.reply? : Event → Option (Except StorageFault Answer)
  | ⟨.send _, outcome⟩ => some outcome
  | _ => none

/-- The messages that were handed over. -/
def Service.mailed (past : List Event) : List Message :=
  past.filterMap fun event =>
    match event.1 with
    | .deliver message => some message
    | _ => none

open Service (mailed)

namespace Task

variable {base : String} {task : Task} {past : List Event}

/-- The request for the user of a task, with what came back. -/
def select (task : Task) (outcome : Except StorageFault Answer) : Event :=
  ⟨.send (.statement (.selectUser task.username)), outcome⟩

/-- The request for a record for a user, with what came back. -/
def insert (user : User) (code : String) (outcome : Except StorageFault Answer) : Event :=
  ⟨.send (.statement (.insertVerification ⟨user.username, user.email, code⟩)), outcome⟩

/-- Whether what came back is the row of a user. -/
def IsUser (outcome : Except StorageFault Answer) (user : User) : Prop :=
  ∃ answer, outcome = .ok answer ∧ Answer.one User.ofRow answer = .ok user

/-- Whether what came back is the row of a record. -/
def IsRecord (outcome : Except StorageFault Answer) (record : Verification) : Prop :=
  ∃ answer, outcome = .ok answer ∧ Answer.one Verification.ofRow answer = .ok record

/-- What has happened to a task at some moment. -/
inductive Course (base : String) (task : Task) : List Event → Prop
  | untouched : Course base task []
  | connected (opened) : Course base task [⟨.checkout, opened⟩]
  | selected (outcome) : Course base task [⟨.checkout, .ok ()⟩, task.select outcome]
  | missed (outcome) :
      Course base task [⟨.checkout, .ok ()⟩, task.select outcome, ⟨.release false, ()⟩]
  | drew (outcome draws) :
      Course base task [⟨.checkout, .ok ()⟩, task.select outcome, ⟨.codeDraws, draws⟩]
  | inserted {outcome user} (draws outcome') : IsUser outcome user → draws.length = Verification.codeLength →
      Course base task [⟨.checkout, .ok ()⟩, task.select outcome, ⟨.codeDraws, draws⟩,
        insert user (SecretCode.ofDraws draws) outcome']
  | returned {outcome user} (draws outcome') : IsUser outcome user → draws.length = Verification.codeLength →
      Course base task [⟨.checkout, .ok ()⟩, task.select outcome, ⟨.codeDraws, draws⟩,
        insert user (SecretCode.ofDraws draws) outcome', ⟨.release false, ()⟩]
  | delivered {outcome user draws outcome' record message} (said) : IsUser outcome user →
      draws.length = Verification.codeLength → IsRecord outcome' record →
      Mail.welcome user record base = .ok message →
      Course base task [⟨.checkout, .ok ()⟩, task.select outcome, ⟨.codeDraws, draws⟩,
        insert user (SecretCode.ofDraws draws) outcome', ⟨.release false, ()⟩, ⟨.deliver message, said⟩]

/-- What has happened to a task in the end. -/
inductive Ended (base : String) (task : Task) : List Event → Except TaskFault Verification → Prop
  | unconnected (fault) :
      Ended base task [⟨.checkout, .error fault⟩] (.error (.connection (.ofFault fault)))
  | missed {outcome failure} : (∀ user, ¬IsUser outcome user) →
      Ended base task [⟨.checkout, .ok ()⟩, task.select outcome, ⟨.release false, ()⟩]
        (.error (.user task.username failure))
  | unstored {outcome user draws outcome' failure} : IsUser outcome user →
      draws.length = Verification.codeLength → (∀ record, ¬IsRecord outcome' record) →
      Ended base task [⟨.checkout, .ok ()⟩, task.select outcome, ⟨.codeDraws, draws⟩,
        insert user (SecretCode.ofDraws draws) outcome', ⟨.release false, ()⟩] (.error (.record failure))
  | unlinked {outcome user draws outcome' fault} : IsUser outcome user →
      draws.length = Verification.codeLength → Url.read base.toList = .error fault →
      Ended base task [⟨.checkout, .ok ()⟩, task.select outcome, ⟨.codeDraws, draws⟩,
        insert user (SecretCode.ofDraws draws) outcome', ⟨.release false, ()⟩] (.error (.link fault))
  | delivered {outcome user draws outcome' record message} (said) : IsUser outcome user →
      draws.length = Verification.codeLength → IsRecord outcome' record →
      Mail.welcome user record base = .ok message →
      Ended base task [⟨.checkout, .ok ()⟩, task.select outcome, ⟨.codeDraws, draws⟩,
        insert user (SecretCode.ofDraws draws) outcome', ⟨.release false, ()⟩, ⟨.deliver message, said⟩]
        (match said with
          | .ok () => .ok record
          | .error fault => .error (.mail fault))

/-- Whether every code that was drawn has all its places. -/
def Fair (past : List Event) : Prop := ∀ event ∈ past, event.Drawn

theorem Fair.append_singleton {event : Event} (h : Fair past) (hdrawn : event.Drawn) :
    Fair (past ++ [event]) := by
  intro other hother
  rcases List.mem_append.mp hother with hmem | hmem
  · exact h other hmem
  · rw [List.mem_singleton.mp hmem]
    exact hdrawn

theorem drawn_of_ne {action : Action} (h : action ≠ .codeDraws) (answer : action.Answer) :
    Event.Drawn ⟨action, answer⟩ :=
  fun _ heq => absurd (congrArg Sigma.fst heq) h

theorem drawn_of_mem {draws : List (Fin 62)} (h : Fair past) (hmem : ⟨.codeDraws, draws⟩ ∈ past) :
    draws.length = Verification.codeLength := h _ hmem draws rfl

theorem none_of_result_eq_error {α : Type} {query : Query α} {outcome : Except StorageFault Answer}
    {failure : Failure} (h : query.result outcome = .error failure) :
    ∀ value, ¬∃ answer, outcome = .ok answer ∧ query.read answer = .ok value := by
  rintro value ⟨answer, rfl, hread⟩
  rw [Query.result, hread] at h
  cases h

/-- Whether what is asked for takes the task one step further, whatever is answered. -/
def Proceeds (base : String) (task : Task) (past : List Event) (action : Action) : Prop :=
  Fair past → ∀ answer, Event.Drawn ⟨action, answer⟩ → Course base task (past ++ [⟨action, answer⟩])

theorem mail_keeps {outcome outcome' : Except StorageFault Answer} {user : User} {draws : List (Fin 62)}
    {record : Verification} (huser : IsUser outcome user) (hrecord : IsRecord outcome' record) :
    (mail base user record).Keeps (Proceeds base task)
      (fun past result => Fair past → Ended base task past result)
      [⟨.checkout, .ok ()⟩, task.select outcome, ⟨.codeDraws, draws⟩,
        insert user (SecretCode.ofDraws draws) outcome', ⟨.release false, ()⟩] := by
  cases hbase : Url.read base.toList with
  | error fault =>
      rw [mail, Mail.welcome_eq_error hbase]
      exact fun hfair => .unlinked huser (drawn_of_mem hfair (by simp)) hbase
  | ok url =>
      obtain ⟨message, hwelcome, -⟩ := @Mail.welcome_eq_ok user record base url hbase
      rw [mail, hwelcome]
      refine ⟨fun hfair said _ => ?_, fun said => ?_⟩
      · exact .delivered said huser (drawn_of_mem hfair (by simp)) hrecord hwelcome
      · cases said with
        | ok => exact fun hfair => .delivered (.ok ()) huser (drawn_of_mem hfair (by simp)) hrecord hwelcome
        | error fault =>
            exact fun hfair => .delivered (.error fault) huser (drawn_of_mem hfair (by simp)) hrecord hwelcome

theorem store_keeps {outcome : Except StorageFault Answer} {user : User} (huser : IsUser outcome user)
    (draws : List (Fin 62)) (outcome' : Except StorageFault Answer) :
    ((Service.release false).bind fun _ =>
      match (Query.createVerification ⟨user.username, user.email, SecretCode.ofDraws draws⟩).result outcome' with
      | .error failure => .done (.error (.record failure))
      | .ok record => mail base user record).Keeps
      (Proceeds base task) (fun past result => Fair past → Ended base task past result)
      [⟨.checkout, .ok ()⟩, task.select outcome, ⟨.codeDraws, draws⟩,
        insert user (SecretCode.ofDraws draws) outcome'] := by
  refine ⟨fun hfair _ _ => .returned draws outcome' huser (drawn_of_mem hfair (by simp)), fun _ => ?_⟩
  cases hstored : (Query.createVerification
      ⟨user.username, user.email, SecretCode.ofDraws draws⟩).result outcome' with
  | error failure =>
      have hnone := none_of_result_eq_error hstored
      simp only [Program.done_bind]
      exact fun hfair => .unstored huser (drawn_of_mem hfair (by simp)) hnone
  | ok record =>
      simp only [Program.done_bind]
      exact mail_keeps huser (Query.result_eq_ok hstored)

theorem process_eq (base : String) (task : Task) :
    task.process base = .ask .checkout fun opened =>
      match opened with
      | .error fault => .done (.error (.connection (.ofFault fault)))
      | .ok () => .ask (.send (.statement (.selectUser task.username))) fun outcome =>
          match (Query.user task.username).result outcome with
          | .error failure => .ask (.release false) fun _ => .done (.error (.user task.username failure))
          | .ok user => .ask .codeDraws fun draws =>
              .ask (.send (.statement (.insertVerification
                ⟨user.username, user.email, SecretCode.ofDraws draws⟩))) fun outcome' =>
                (Service.release false).bind fun _ =>
                  match (Query.createVerification
                    ⟨user.username, user.email, SecretCode.ofDraws draws⟩).result outcome' with
                  | .error failure => .done (.error (.record failure))
                  | .ok record => mail base user record := by
  refine congrArg (Program.ask Action.checkout) (funext fun opened => ?_)
  cases opened with
  | error fault => rfl
  | ok opened =>
      refine congrArg (Program.ask _) (funext fun outcome => ?_)
      cases hresult : (Query.user task.username).result outcome with
      | error failure =>
          simp only [Program.done_bind, Program.pure_eq, hresult]
          rfl
      | ok user =>
          simp only [Program.done_bind, Program.pure_eq, hresult]
          refine congrArg (Program.ask _) (funext fun draws => ?_)
          refine congrArg (Program.ask _) (funext fun outcome' => ?_)
          cases hstored : (Query.createVerification
              ⟨user.username, user.email, SecretCode.ofDraws draws⟩).result outcome' with
          | error failure =>
              simp only [Program.bind_eq, Program.done_bind, Program.pure_eq, hstored]
          | ok record =>
              simp only [Program.bind_eq, Program.done_bind, Program.pure_eq, hstored]

theorem process_keeps (base : String) (task : Task) :
    (task.process base).Keeps (Proceeds base task)
      (fun past result => Fair past → Ended base task past result) [] := by
  rw [process_eq]
  refine ⟨fun _ opened _ => .connected opened, fun opened => ?_⟩
  cases opened with
  | error fault => exact fun _ => .unconnected fault
  | ok opened =>
      refine ⟨fun _ outcome _ => .selected outcome, fun outcome => ?_⟩
      cases hresult : (Query.user task.username).result outcome with
      | error failure =>
          have hnone := none_of_result_eq_error hresult
          simp only [hresult]
          exact ⟨fun _ _ _ => .missed outcome, fun _ _ => .missed hnone⟩
      | ok user =>
          have huser : IsUser outcome user := Query.result_eq_ok hresult
          simp only [hresult]
          refine ⟨fun _ draws _ => .drew outcome draws, fun draws => ?_⟩
          refine ⟨fun hfair outcome' _ => ?_, fun outcome' => ?_⟩
          · exact .inserted draws outcome' huser (drawn_of_mem hfair (by simp))
          · exact store_keeps huser draws outcome'

/-- The statements of a task: the user whom the task names is read, and then a record is stored with the
name and the address of the user who came back, and with a code. -/
inductive Sends (task : Task) : List Event → Prop
  | nothing : Sends task []
  | user (outcome) : Sends task [task.select outcome]
  | record {outcome user code} (outcome') : IsUser outcome user → SecretCode.IsCode code →
      Sends task [task.select outcome, insert user code outcome']

/-- Whether both statements have given whole rows. -/
def Prepared (task : Task) (past : List Event) (user : User) (record : Verification) : Prop :=
  ∃ code outcome outcome', sent past = [task.select outcome, insert user code outcome'] ∧
    IsUser outcome user ∧ IsRecord outcome' record

structure Handling (base : String) (task : Task) (past : List Event) : Prop where
  sends : Sends task (sent past)
  /-- no transaction is begun, limited or ended -/
  plain : ∀ event ∈ sent past, ∃ statement, event.1 = .send (.statement statement)
  connects : (past.filter fun event => event.1 = .checkout).length ≤ 1
  mails : mailed past = [] ∨ ∃ user record url message, mailed past = [message] ∧
    task.Prepared past user record ∧ Url.read base.toList = .ok url ∧ Mail.Asks url user record message

structure Handled (base : String) (task : Task) (past : List Event)
    (result : Except TaskFault Verification) : Prop extends Handling base task past where
  connected : (past.filter fun event => event.1 = .checkout).length = 1
  mailed_iff : mailed past ≠ [] ↔
    (∃ user record, task.Prepared past user record) ∧ ∃ url, Url.read base.toList = .ok url
  /-- a task succeeds if its message is accepted -/
  succeeded_iff : (∃ record, result = .ok record) ↔ ∃ message, ⟨.deliver message, .ok ()⟩ ∈ past

theorem Sends.plain {events : List Event} (h : task.Sends events) :
    ∀ event ∈ events, ∃ statement, event.1 = .send (.statement statement) := by
  intro event hevent
  cases h with
  | nothing => cases hevent
  | user outcome =>
      rw [List.mem_singleton.mp hevent]
      exact ⟨_, rfl⟩
  | record outcome' huser hcode =>
      simp only [List.mem_cons, List.not_mem_nil, or_false] at hevent
      rcases hevent with rfl | rfl
      · exact ⟨_, rfl⟩
      · exact ⟨_, rfl⟩

theorem Sends.of_draws {outcome : Except StorageFault Answer} {user : User} {draws : List (Fin 62)}
    (huser : IsUser outcome user) (hdraws : draws.length = Verification.codeLength)
    (outcome' : Except StorageFault Answer) :
    task.Sends [task.select outcome, insert user (SecretCode.ofDraws draws) outcome'] :=
  .record outcome' huser (SecretCode.isCode_ofDraws hdraws)

theorem Handling.of_unmailed (hsends : task.Sends (sent past))
    (hconnects : (past.filter fun event => event.1 = .checkout).length ≤ 1) (hmailed : mailed past = []) :
    Handling base task past := ⟨hsends, hsends.plain, hconnects, .inl hmailed⟩

theorem Course.handling (h : Course base task past) : Handling base task past := by
  cases h with
  | untouched => exact .of_unmailed .nothing (by simp) rfl
  | connected opened => exact .of_unmailed .nothing (by simp) rfl
  | selected outcome => exact .of_unmailed (.user outcome) (by simp [select]) rfl
  | missed outcome => exact .of_unmailed (.user outcome) (by simp [select]) rfl
  | drew outcome draws => exact .of_unmailed (.user outcome) (by simp [select]) rfl
  | inserted draws outcome' huser hdraws =>
      exact .of_unmailed (.of_draws huser hdraws outcome') (by simp [select, insert]) rfl
  | returned draws outcome' huser hdraws =>
      exact .of_unmailed (.of_draws huser hdraws outcome') (by simp [select, insert]) rfl
  | @delivered outcome user draws outcome' record message said huser hdraws hrecord hwelcome =>
      have hsends : task.Sends _ := .of_draws huser hdraws outcome'
      refine ⟨hsends, hsends.plain, by simp [select, insert], .inr ?_⟩
      cases hbase : Url.read base.toList with
      | error fault => cases (Mail.welcome_eq_error hbase).symm.trans hwelcome
      | ok url =>
          obtain ⟨message, hmessage, hasks⟩ := Mail.welcome_eq_ok hbase
          cases hmessage.symm.trans hwelcome
          exact ⟨_, _, url, _, rfl, ⟨_, _, _, rfl, huser, hrecord⟩, rfl, hasks⟩

theorem Ended.course {result : Except TaskFault Verification} (h : Ended base task past result) :
    Course base task past := by
  cases h with
  | unconnected fault => exact .connected (.error fault)
  | missed _ => exact .missed _
  | unstored huser hdraws _ => exact .returned _ _ huser hdraws
  | unlinked huser hdraws _ => exact .returned _ _ huser hdraws
  | delivered said huser hdraws hrecord hwelcome => exact .delivered said huser hdraws hrecord hwelcome

theorem Handled.of_unmailed {fault : TaskFault} (h : Handling base task past)
    (hconnected : (past.filter fun event => event.1 = .checkout).length = 1) (hmailed : mailed past = [])
    (hmissing : ¬((∃ user record, task.Prepared past user record) ∧ ∃ url, Url.read base.toList = .ok url)) :
    Handled base task past (.error fault) where
  toHandling := h
  connected := hconnected
  mailed_iff := iff_of_false (fun hne => hne hmailed) hmissing
  succeeded_iff := by
    refine iff_of_false (fun ⟨_, h⟩ => nomatch h) fun ⟨message, hmem⟩ => ?_
    have hmessage : message ∈ mailed past := List.mem_filterMap.mpr ⟨_, hmem, rfl⟩
    rw [hmailed] at hmessage
    cases hmessage

theorem Ended.handled {result : Except TaskFault Verification} (h : Ended base task past result) :
    Handled base task past result := by
  have hhandling := h.course.handling
  cases h with
  | unconnected fault =>
      refine .of_unmailed hhandling rfl rfl ?_
      rintro ⟨⟨user, record, code, outcome, outcome', hsent, -⟩, -⟩
      cases hsent
  | missed _ =>
      refine .of_unmailed hhandling (by simp [select]) rfl ?_
      rintro ⟨⟨user, record, code, outcome, outcome', hsent, -⟩, -⟩
      cases (List.cons.inj hsent).2
  | @unstored outcome user draws outcome' failure huser hdraws hnone =>
      refine .of_unmailed hhandling (by simp [select, insert]) rfl ?_
      rintro ⟨⟨user, record, code, other, other', hsent, -, hrecord⟩, -⟩
      have hinsert : insert _ _ outcome' = insert user code other' :=
        (List.cons.inj (List.cons.inj hsent).2).1
      exact hnone record (Option.some.inj (congrArg Event.reply? hinsert) ▸ hrecord)
  | unlinked huser hdraws hbase =>
      refine .of_unmailed hhandling (by simp [select, insert]) rfl ?_
      rintro ⟨-, url, hurl⟩
      cases hbase.symm.trans hurl
  | @delivered outcome user draws outcome' record message said huser hdraws hrecord hwelcome =>
      refine ⟨hhandling, by simp [select, insert], iff_of_true (List.cons_ne_nil _ _) ⟨?_, ?_⟩, ?_⟩
      · exact ⟨user, record, _, outcome, outcome', rfl, huser, hrecord⟩
      · cases hbase : Url.read base.toList with
        | error fault => cases (Mail.welcome_eq_error hbase).symm.trans hwelcome
        | ok url => exact ⟨url, rfl⟩
      · cases said with
        | ok => exact iff_of_true ⟨record, rfl⟩ ⟨message, by simp⟩
        | error fault =>
            refine iff_of_false (fun ⟨_, h⟩ => nomatch h) fun ⟨other, hmem⟩ => ?_
            simp [select, insert] at hmem

end Task
end Passbook
