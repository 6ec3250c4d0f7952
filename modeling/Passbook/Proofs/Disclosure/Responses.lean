import Passbook.Proofs.Disclosure.Services
import Passbook.Proofs.Http.CommitReport
import Passbook.Proofs.Transaction.Attempts

/-!
# Responses keep what is to stay inside

Two rehearsals are alike if they differ in nothing but the messages of the database, the digests of
passwords and secret codes, wherever these occur in what is laid down for them. Served in two
rehearsals that are alike, any request gets the same response, and the same commands are attempted on
the way, with the same parameters. The digest of a new password is made from the salt, which is the
same in both.

Delays, the state of the connection, the task queue and chance are the same in both. What a response
takes from them is no secret of the database.
-/
namespace Passbook

open Program (Lockstep Respects)

variable {α β : Type} {presented? : Option String}

structure Reply.Alike (presented? : Option String) (a b : Reply) : Prop where
  delay : a.delay = b.delay
  outcome : AlikeOutcomes presented? a.outcome b.outcome

structure Cues.Alike (presented? : Option String) (a b : Cues) : Prop where
  replies : List.Forall₂ (Reply.Alike presented?) a.replies b.replies
  begin? : Option.Rel (Reply.Alike presented?) a.begin? b.begin?
  limit? : Option.Rel (Reply.Alike presented?) a.limit? b.limit?
  commit? : Option.Rel (Reply.Alike presented?) a.commit? b.commit?
  rollback? : Option.Rel (Reply.Alike presented?) a.rollback? b.rollback?
  refusals : List.Forall₂ Refusal.Alike a.refusals b.refusals
  mail : a.mail = b.mail

namespace Rehearsal

structure Alike (presented? : Option String) (r r' : Rehearsal) : Prop where
  isOpen : r.isOpen = r'.isOpen
  isConnected : r.isConnected = r'.isConnected
  unread : Option.Rel StorageFault.Alike r.unread r'.unread
  cues : r.cues.Alike presented? r'.cues
  queue : r.queue = r'.queue
  hasWorker : r.hasWorker = r'.hasWorker
  linkBase : r.linkBase = r'.linkBase
  chance : r.chance = r'.chance
  trace : r.trace = r'.trace

variable {r r' : Rehearsal}

theorem success_alike : success.Alike presented? success := ⟨rfl, .ok ⟨.nil, rfl⟩⟩

theorem unscripted_alike : unscripted.Alike presented? unscripted := ⟨rfl, .error (.same _)⟩

/-- A control command without a reply of its own succeeds in both. -/
theorem getD_alike {reply? reply?' : Option Reply}
    (h : Option.Rel (Reply.Alike presented?) reply? reply?') :
    (reply?.getD success).Alike presented? (reply?'.getD success) := by
  cases h with
  | some hreply => exact hreply
  | none => exact success_alike

theorem reply_alike (command : Command) {cues cues' : Cues} (h : cues.Alike presented? cues') :
    (reply command cues).1.Alike presented? (reply command cues').1 ∧
      (reply command cues).2.Alike presented? (reply command cues').2 := by
  cases command with
  | begin => exact ⟨getD_alike h.begin?, { h with begin? := .none }⟩
  | limit millis => exact ⟨getD_alike h.limit?, { h with limit? := .none }⟩
  | commit => exact ⟨getD_alike h.commit?, { h with commit? := .none }⟩
  | rollback => exact ⟨getD_alike h.rollback?, { h with rollback? := .none }⟩
  | _ =>
      have hreplies := h.replies
      simp only [reply]
      generalize cues.replies = replies, cues'.replies = replies' at hreplies ⊢
      cases hreplies with
      | nil => exact ⟨unscripted_alike, h⟩
      | cons hfirst hrest => exact ⟨hfirst, { h with replies := hrest }⟩

theorem exchange_alike (command : Command) (h : r.Alike presented? r') :
    (exchange command r).1.Alike presented? (exchange command r').1 ∧
      (exchange command r).2.Alike presented? (exchange command r').2 := by
  obtain ⟨hreply, hcues⟩ := reply_alike command h.cues
  exact ⟨hreply, { h with cues := hcues, trace := by simp only [exchange, h.trace] }⟩

theorem takeReply_alike (command : Command) (h : r.Alike presented? r') :
    (takeReply command r).1.Alike presented? (takeReply command r').1 ∧
      (takeReply command r).2.Alike presented? (takeReply command r').2 := by
  have hunread := h.unread
  unfold takeReply
  generalize r.unread = unread, r'.unread = unread' at hunread ⊢
  cases hunread with
  | some hfault => exact ⟨⟨rfl, .error hfault⟩, { h with unread := .none }⟩
  | none =>
      rw [← h.isConnected]
      dsimp only
      split
      · exact exchange_alike command h
      · exact ⟨⟨rfl, .error (.same _)⟩, h⟩

theorem learn_alike {outcome outcome' : Except StorageFault Answer}
    (houtcome : AlikeOutcomes presented? outcome outcome') (h : r.Alike presented? r') :
    (learn outcome r).2.Alike presented? (learn outcome' r').2 := by
  cases houtcome with
  | ok => exact h
  | @error fault fault' hfault =>
      by_cases hlost : fault = .connectionLost
      · have hlost' := hfault.connectionLost_iff.mp hlost
        subst hlost hlost'
        exact { h with isConnected := rfl }
      · have hlost' := mt hfault.connectionLost_iff.mpr hlost
        unfold learn
        split <;> split <;> simp_all

theorem leftover_alike {outcome outcome' : Except StorageFault Answer}
    (h : AlikeOutcomes presented? outcome outcome') :
    Option.Rel StorageFault.Alike (leftover outcome) (leftover outcome') := by
  cases h with
  | ok => exact .none
  | error hfault => exact .some hfault

theorem dropWhile_alike {refusals refusals' : List Refusal}
    (h : List.Forall₂ Refusal.Alike refusals refusals') :
    List.Forall₂ Refusal.Alike (refusals.dropWhile isPassing) (refusals'.dropWhile isPassing) := by
  induction h with
  | nil => exact .nil
  | @cons refusal refusal' rest rest' hrefusal hrest ih =>
      have hpassing : isPassing refusal = isPassing refusal' := by
        simp only [isPassing, hrefusal.1]
      rw [List.dropWhile_cons, List.dropWhile_cons, hpassing]
      split
      · exact ih
      · exact .cons hrefusal hrest

theorem checkout_alike (h : r.Alike presented? r') :
    Matching StorageFault.Alike Eq r.checkout.1 r'.checkout.1 ∧
      r.checkout.2.Alike presented? r'.checkout.2 := by
  unfold checkout
  rw [← h.isOpen, ← h.isConnected]
  split
  · exact ⟨.error (.same _), h⟩
  · split
    · exact ⟨.ok rfl, h⟩
    · have hrefusals := dropWhile_alike h.cues.refusals
      generalize r.cues.refusals.dropWhile isPassing = refusals,
        r'.cues.refusals.dropWhile isPassing = refusals' at hrefusals ⊢
      cases hrefusals with
      | nil =>
          dsimp only
          exact ⟨.ok rfl,
            { h with isOpen := rfl, isConnected := rfl, cues := { h.cues with refusals := .nil } }⟩
      | cons hrefusal hrest =>
          dsimp only
          exact ⟨.error (.refused hrefusal),
            { h with isOpen := rfl, isConnected := rfl, cues := { h.cues with refusals := hrest } }⟩

theorem send_alike (command : Command) (h : r.Alike presented? r') :
    AlikeOutcomes presented? (r.send command).1 (r'.send command).1 ∧
      (r.send command).2.Alike presented? (r'.send command).2 := by
  obtain ⟨hreply, htaken⟩ := takeReply_alike command h
  rw [send_eq, send_eq, learn_fst, learn_fst]
  exact ⟨hreply.outcome, learn_alike hreply.outcome htaken⟩

theorem sendWithin_alike (statement : Statement) (patience : Nat) (h : r.Alike presented? r') :
    TimedReply.Alike presented? (r.sendWithin statement patience).1 (r'.sendWithin statement patience).1 ∧
      (r.sendWithin statement patience).2.Alike presented? (r'.sendWithin statement patience).2 := by
  obtain ⟨hreply, htaken⟩ := takeReply_alike (.statement statement) h
  rw [sendWithin_eq, sendWithin_eq]
  dsimp only
  rw [← hreply.delay]
  split
  · exact ⟨.overdue, { htaken with unread := leftover_alike hreply.outcome }⟩
  · exact ⟨.inTime _ hreply.outcome, (send_alike (.statement statement) h).2⟩

theorem release_alike (inTransaction : Bool) (h : r.Alike presented? r') :
    (r.release inTransaction).Alike presented? (r'.release inTransaction) := by
  unfold release
  rw [← h.isConnected]
  split
  · obtain ⟨hreply, hnext⟩ := exchange_alike .rollback h
    have houtcome := hreply.outcome
    dsimp only
    generalize (exchange .rollback r).1.outcome = outcome, (exchange .rollback r').1.outcome = outcome'
      at houtcome ⊢
    cases houtcome with
    | ok => exact { hnext with unread := .none }
    | error => exact { hnext with unread := .none, isConnected := rfl }
  · exact { h with isConnected := rfl, unread := .none }

theorem announce_alike (hook : Hook) {user user' : User} (huser : user.Alike user')
    (h : r.Alike presented? r') :
    (r.announce hook user).1 = (r'.announce hook user').1 ∧
      (r.announce hook user).2.Alike presented? (r'.announce hook user').2 := by
  obtain ⟨digest, rfl⟩ := huser
  cases hook with
  | enqueue =>
      simp only [announce, ← h.queue]
      split
      · exact ⟨rfl, { h with queue := rfl }⟩
      · exact ⟨rfl, h⟩
  | allow => exact ⟨rfl, { h with trace := by simp only [announce, h.trace] }⟩
  | refuse reason => exact ⟨rfl, { h with trace := by simp only [announce, h.trace] }⟩

theorem deliver_alike (message : Message) (h : r.Alike presented? r') :
    (r.deliver message).1 = (r'.deliver message).1 ∧
      (r.deliver message).2.Alike presented? (r'.deliver message).2 := by
  have hnoted : ({ r with
      cues := { r.cues with mail := r.cues.mail.drop 1 }
      trace := { r.trace with messages := r.trace.messages ++ [message] } } : Rehearsal).Alike presented?
    { r' with
      cues := { r'.cues with mail := r'.cues.mail.drop 1 }
      trace := { r'.trace with messages := r'.trace.messages ++ [message] } } :=
    { h with
      cues := { h.cues with mail := congrArg (List.drop 1) h.cues.mail }
      trace := by simp only [h.trace] }
  unfold deliver
  rw [← h.cues.mail]
  dsimp only
  split
  · exact ⟨rfl, h.cues.mail ▸ hnoted⟩
  · exact ⟨rfl, h.cues.mail ▸ hnoted⟩

theorem chance_alike (draw : Chance → α × Chance) (h : r.Alike presented? r') :
    (draw r.chance).1 = (draw r'.chance).1 ∧
      ({ r with chance := (draw r.chance).2 } : Rehearsal).Alike presented?
        { r' with chance := (draw r'.chance).2 } :=
  ⟨congrArg (fun chance => (draw chance).1) h.chance,
    { h with chance := congrArg (fun chance => (draw chance).2) h.chance }⟩

/-- Rehearsals that are alike answer alike, and stay so. -/
theorem respects_alike :
    Respects (Service.correspondence presented?) (Alike presented?) surroundings surroundings := by
  intro action action' r r' hasks h
  cases hasks with
  | announce hook huser => exact announce_alike hook huser h
  | same =>
      cases action with
      | checkout => exact checkout_alike h
      | release inTransaction => exact ⟨rfl, release_alike inTransaction h⟩
      | send command => exact send_alike command h
      | sendWithin statement patience => exact sendWithin_alike statement patience h
      | clock => exact ⟨rfl, h⟩
      | announce hook user => exact announce_alike hook ⟨user.passwordDigest, rfl⟩ h
      | salt => exact chance_alike (Chance.bytes 16) h
      | codeDraws => exact chance_alike (Chance.codeDraws Verification.codeLength) h
      | deliver message => exact deliver_alike message h

theorem attempted_alike {action action' : Service.Action}
    (hasks : (Service.correspondence presented?).asks action action') (h : r.Alike presented? r') :
    (r.attempted action).map Attempt.command = (r'.attempted action').map Attempt.command := by
  cases hasks with
  | announce => rfl
  | same =>
      cases action with
      | release inTransaction =>
          cases inTransaction with
          | false => rfl
          | true =>
              simp only [attempted, ← h.isConnected]
              split
              · rfl
              · rfl
      | _ => rfl

theorem attempts_alike {ends : α → β → Prop} {p : Service α} {p' : Service β}
    (hp : Lockstep (Service.correspondence presented?) ends p p') (h : r.Alike presented? r') :
    (attempts p r).map Attempt.command = (attempts p' r').map Attempt.command := by
  induction hp generalizing r r' with
  | done => rfl
  | ask hasks _ ih =>
      obtain ⟨hanswer, hnext⟩ := respects_alike _ _ r r' hasks h
      simp only [attempts, List.map_append, attempted_alike hasks h, ih _ _ hanswer hnext]

end Rehearsal

namespace Http

open Rehearsal (attempts)

/-- A response, and what is attempted for it, does not depend on the messages of the database, on the
digests of passwords, or on secret codes other than the one that the request presents. -/
theorem respond_discloses_nothing (limit : Nat) (request : Request) {r r' : Rehearsal}
    (h : r.Alike request.presentedCode? r') :
    (Rehearsal.run (respond limit request) r).1 = (Rehearsal.run (respond limit request) r').1 ∧
      (attempts (respond limit request) r).map Attempt.command =
        (attempts (respond limit request) r').map Attempt.command ∧
      (Rehearsal.run (respond limit request) r).2.Alike request.presentedCode?
        (Rehearsal.run (respond limit request) r').2 := by
  have hlockstep := respond_alike limit request
  obtain ⟨hresponse, hafter⟩ := hlockstep.run Rehearsal.respects_alike h
  exact ⟨hresponse, Rehearsal.attempts_alike hlockstep h, hafter⟩

end Http

/-- A database that stores `code` in a record and `digest` with a user. It does not carry out the end
of a transaction, for which it gives `reason`. -/
def Rehearsal.confided (code digest reason : String) : Rehearsal where
  queue := ⟨1, [], true, Nat.one_pos, TaskQueue.oneTask_room⟩
  linkBase := ""
  cues :=
    { replies := [record, record, user].map fun row => { outcome := .ok ⟨[row], 1⟩ }
      commit? := some refusal
      rollback? := some refusal }
where
  refusal : Reply := { outcome := .error (.refused ⟨reason, some "XX000", none⟩) }
  record : Row := [("id", .int 7), ("username", .text "alice"), ("email", .text "alice@example.com"),
    ("secret_code", .text code), ("is_used", .bool false), ("created_at", .int 0),
    ("expired_at", .int 9999999999999999)]
  user : Row := [("username", .text "alice"), ("hashed_password", .text digest),
    ("full_name", .text "Alice"), ("email", .text "alice@example.com"), ("password_changed_at", .int 0),
    ("is_email_verified", .bool true), ("created_at", .int 0)]

/-- What is confided may differ, unless one of the codes only is the one that is presented. -/
theorem Rehearsal.confided_alike {code code' : String} (h : AlikeCodes presented? code code')
    (digest digest' reason reason' : String) :
    (confided code digest reason).Alike presented? (confided code' digest' reason') := by
  have same {row row' : Row} (hrow : Row.Alike presented? row row') :
      Reply.Alike presented? { outcome := .ok ⟨[row], 1⟩ } { outcome := .ok ⟨[row'], 1⟩ } :=
    ⟨rfl, .ok ⟨.cons hrow .nil, rfl⟩⟩
  have hrecord : Row.Alike presented? (confided.record code) (confided.record code') := by
    refine .cons ⟨rfl, .same _⟩ (.cons ⟨rfl, .same _⟩ (.cons ⟨rfl, .same _⟩ ?_))
    refine .cons ⟨rfl, .code rfl h⟩ (.cons ⟨rfl, .same _⟩ (.cons ⟨rfl, .same _⟩ ?_))
    exact .cons ⟨rfl, .same _⟩ .nil
  have huser : Row.Alike presented? (confided.user digest) (confided.user digest') := by
    refine .cons ⟨rfl, .same _⟩ (.cons ⟨rfl, .digest _ _ rfl⟩ (.cons ⟨rfl, .same _⟩ ?_))
    refine .cons ⟨rfl, .same _⟩ (.cons ⟨rfl, .same _⟩ (.cons ⟨rfl, .same _⟩ ?_))
    exact .cons ⟨rfl, .same _⟩ .nil
  have hrefusal : (confided.refusal reason).Alike presented? (confided.refusal reason') :=
    ⟨rfl, .error (.refused ⟨rfl, rfl⟩)⟩
  exact
    { isOpen := rfl, isConnected := rfl, unread := .none, queue := rfl, hasWorker := rfl
      linkBase := rfl, chance := rfl, trace := rfl
      cues :=
        { replies := .cons (same hrecord) (.cons (same hrecord) (.cons (same huser) .nil))
          begin? := .none, limit? := .none, commit? := .some hrefusal, rollback? := .some hrefusal
          refusals := .nil, mail := rfl } }

/-- A click with a code that is not the stored one tells nothing of the code that is. -/
theorem Http.respond_discloses_nothing_clickedLink :
    (Rehearsal.confided "swordfish" "digest" "disk full").Alike clickedLink.presentedCode?
        (Rehearsal.confided "open sesame" "other digest" "deadlock detected") ∧
      (Rehearsal.run (respond 1000 clickedLink) (.confided "swordfish" "digest" "disk full")).1 =
        (Rehearsal.run (respond 1000 clickedLink)
          (.confided "open sesame" "other digest" "deadlock detected")).1 := by
  have hpresented : clickedLink.presentedCode? = some "abcdefghijklmnopqrstuvwxyz012345" := by
    decide +kernel
  have hcodes : AlikeCodes clickedLink.presentedCode? "swordfish" "open sesame" := by
    rw [hpresented]
    rintro _ ⟨⟩
    exact ⟨fun h => absurd h (by decide), fun h => absurd h (by decide)⟩
  have halike := Rehearsal.confided_alike hcodes "digest" "other digest" "disk full" "deadlock detected"
  exact ⟨halike, (respond_discloses_nothing 1000 clickedLink halike).1⟩

end Passbook
