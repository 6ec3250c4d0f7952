import Passbook.Mail.Relay
import Passbook.Proofs.Json.Reader
import Passbook.Proofs.Program.Contract

/-!
# What a relay is handed

A relay is sent one request for a message. Its body is read as the message again, whatever characters
the message has, so no two messages have the same body. Its signature is the keyed digest of these very
bytes: a relay that knows the secret can compute it from what it has received.
-/
namespace Passbook

namespace Hex

/-- The digits that digests are shown in. -/
def lowerDigits : List Char := "0123456789abcdef".toList

theorem digit_value : ∀ n < 16, digit n ∈ lowerDigits ∧ value? (digit n) = some n := by
  decide

theorem length_encode (bytes : List UInt8) : (encode bytes).length = 2 * bytes.length := by
  induction bytes with
  | nil => rfl
  | cons b bytes ih =>
      rw [encode, List.flatMap_cons, List.length_append, ← encode, ih, List.length_cons]
      simp only [List.length_cons, List.length_nil]
      omega

theorem mem_lowerDigits {bytes : List UInt8} : ∀ c ∈ encode bytes, c ∈ lowerDigits := by
  intro c hc
  obtain ⟨b, -, hc⟩ := List.mem_flatMap.mp hc
  have hlt := b.toNat_lt
  simp only [List.mem_cons, List.not_mem_nil, or_false] at hc
  rcases hc with rfl | rfl
  · exact (digit_value _ (by omega)).1
  · exact (digit_value _ (by omega)).1

theorem decode?_encode (bytes : List UInt8) : decode? (encode bytes) = some bytes := by
  induction bytes with
  | nil => rfl
  | cons b bytes ih =>
      have hlt := b.toNat_lt
      obtain ⟨-, hhigh⟩ := digit_value (b.toNat / 16) (by omega)
      obtain ⟨-, hlow⟩ := digit_value (b.toNat % 16) (by omega)
      have hvalue : b.toNat / 16 * 16 + b.toNat % 16 = b.toNat := by omega
      rw [encode, List.flatMap_cons, ← encode, List.cons_append, List.cons_append, List.nil_append, decode?,
        hhigh, hlow, ih]
      simp only [Option.bind_eq_bind, Option.bind_some, Option.pure_def, hvalue, UInt8.ofNat_toNat]

end Hex

namespace Message

theorem fits_json (message : Message) : message.json.Fits := by
  have htext (s : String) : (Json.Value.ofString s).Fits := .text s.toList
  refine .object fun field hfield => ?_
  simp only [List.mem_cons, List.not_mem_nil, or_false] at hfield
  rcases hfield with rfl | rfl | rfl
  · exact htext _
  · exact htext _
  · refine .array fun item hitem => ?_
    obtain ⟨recipient, -, rfl⟩ := List.mem_map.mp hitem
    exact htext recipient

/-- A message is made out of what its JSON says. -/
theorem json_injective : Function.Injective json := by
  intro message other h
  obtain ⟨subject, content, recipients⟩ := message
  obtain ⟨subject', content', recipients'⟩ := other
  have hofString : Function.Injective Json.Value.ofString := fun s t hst =>
    String.toList_inj.mp (Json.Value.text.inj hst)
  simp only [json, Json.Value.object.injEq, List.cons.injEq, Prod.mk.injEq, true_and, and_true,
    Json.Value.array.injEq] at h
  obtain ⟨hsubject, hcontent, hrecipients⟩ := h
  rw [hofString hsubject, hofString hcontent, List.map_injective_iff.mpr hofString hrecipients]

end Message

namespace Relay

/-- Whether a request tells a relay with a secret who has sent it and what it says: the signature is the
keyed digest of the bytes of the body in lower-case digits, and these bytes are the JSON of the message. -/
structure Conveys (secret : String) (message : Message) (request : RelayRequest) : Prop where
  signed : ∃ digits : List Char, request.signature = "sha256=" ++ String.ofList digits ∧
    digits.length = 64 ∧ (∀ c ∈ digits, c ∈ Hex.lowerDigits) ∧
    Hex.decode? digits = some (Hmac.code (Utf8.encode secret.toList) (Utf8.encode request.body.toList))
  read : Json.read (Utf8.encode request.body.toList) = .ok
    (.object [("subject", .ofString message.subject), ("content", .ofString message.content),
      ("to", .array (message.recipients.map .ofString))])

theorem Conveys.eq_of_body_eq {secret secret' : String} {message message' : Message}
    {request request' : RelayRequest} (h : Conveys secret message request)
    (h' : Conveys secret' message' request') (hbody : request.body = request'.body) : message = message' := by
  have hread := h.read
  rw [hbody, h'.read] at hread
  exact (Message.json_injective (Except.ok.inj hread)).symm

variable {relay : Relay}

theorem request_conveys (relay : Relay) (message : Message) (random : List UInt8) :
    Conveys relay.secret message (relay.request message random) where
  signed := by
    refine ⟨_, rfl, ?_, Hex.mem_lowerDigits, Hex.decode?_encode _⟩
    rw [Hex.length_encode, Hmac.length_code]
  read := message.fits_json.read_render

theorem secret_of_connect {url secret : String} (h : connect url secret = .ok relay) :
    relay.secret = secret := by
  unfold connect at h
  cases hurl : url? url with
  | error fault =>
      rw [hurl] at h
      cases h
  | ok accepted =>
      rw [hurl] at h
      cases h
      rfl

theorem outcome_eq_ok {status : Nat} : outcome status = .ok () ↔ 200 ≤ status ∧ status ≤ 299 := by
  unfold outcome
  split
  · next h => exact iff_of_true rfl h
  · next h => exact iff_of_false nofun h

theorem outcome_eq_rejected {status : Nat} (h : ¬(200 ≤ status ∧ status ≤ 299)) :
    outcome status = .error (.rejected status) := if_neg h

/-- Whether a result follows from what is answered: nobody answers, or the status decides. -/
def FollowsFrom (result : Except MailFault Unit) : Option Nat → Prop
  | none => result = .error .unreachable
  | some status =>
      (result = .ok () ↔ 200 ≤ status ∧ status ≤ 299) ∧
        (¬(200 ≤ status ∧ status ≤ 299) → result = .error (.rejected status))

/-- Whether one request was sent that conveys a message, and its answer has decided. -/
def HandsOver (secret : String) (message : Message) (past : List (Program.Event Action Action.Answer))
    (result : Except MailFault Unit) : Prop :=
  ∃ random request answer, past = [⟨.random, random⟩, ⟨.post request, answer⟩] ∧
    Conveys secret message request ∧ FollowsFrom result answer

theorem send_keeps (relay : Relay) (message : Message) :
    (relay.send message).Keeps (fun _ _ => True) (HandsOver relay.secret message) [] := by
  refine ⟨trivial, fun random => ⟨trivial, fun answer => ?_⟩⟩
  have hconveys := relay.request_conveys message random
  cases answer with
  | none => exact ⟨random, _, none, rfl, hconveys, rfl⟩
  | some status => exact ⟨random, _, some status, rfl, hconveys, outcome_eq_ok, outcome_eq_rejected⟩

/-- In any surroundings a relay that is accepted is sent one request for a message. The request conveys the
message, no request for another message has the same body, and the status of the answer decides. -/
theorem send_handsOver {url secret : String} (hconnect : connect url secret = .ok relay) (message : Message)
    {σ : Type} (surroundings : (r : Action) → σ → r.Answer × σ) (state : σ) :
    HandsOver secret message ((relay.send message).history surroundings state)
        ((relay.send message).run surroundings state).1 ∧
      ∀ {secret' : String} {message' : Message} {request request' : RelayRequest},
        Conveys secret message request → Conveys secret' message' request' →
          request.body = request'.body → message = message' := by
  rw [← secret_of_connect hconnect]
  exact ⟨(send_keeps relay message).run surroundings state, fun h h' => h.eq_of_body_eq h'⟩

/-- A message with the characters that are escaped. -/
def quoted : Message := ⟨"\"Hi\" \\ \u0001\n", "<p title=\"é😀\">\t</p>", ["o'neill@example.com", "\x7f"]⟩

/-- A relay that answers with the number of requests that it has seen before, behind 299. -/
def counting (action : Action) (count : Nat) : action.Answer × Nat :=
  match action with
  | .random => (List.replicate 16 0, count)
  | .post _ => (some (299 + count), count + 1)

/-- The first message is accepted, and the second is rejected with the status 300. -/
theorem send_handsOver_quoted :
    ∃ relay, connect "https://relay.example/hook?bank=1" "" = .ok relay ∧
      HandsOver "" quoted ((relay.send quoted).history counting 0) (.ok ()) ∧
      HandsOver "" quoted ((relay.send quoted).history counting 1) (.error (.rejected 300)) := by
  obtain ⟨relay, hconnect⟩ : ∃ relay, connect "https://relay.example/hook?bank=1" "" = .ok relay := by
    have haccepted : (connect "https://relay.example/hook?bank=1" "").toOption.isSome = true := by
      decide +kernel
    cases h : connect "https://relay.example/hook?bank=1" "" with
    | ok relay => exact ⟨relay, rfl⟩
    | error fault =>
        rw [h] at haccepted
        cases haccepted
  exact ⟨relay, hconnect, (send_handsOver hconnect quoted counting 0).1,
    (send_handsOver hconnect quoted counting 1).1⟩

end Relay
end Passbook
