import Passbook.Mail.Welcome
import Passbook.Proofs.Http.CommitReport
import Passbook.Proofs.Text.Decimal
import Passbook.Proofs.Url.Written
import Passbook.SecretCode

/-!
# What a mailed link asks for

The link of a welcome message carries the number and the code of a record behind whatever pairs its base
has. A request with the query of the link gives them back: the service confirms the address with this
number and this code. The code may have any characters; only its length is checked.
-/
namespace Passbook

namespace QueryString

variable {α : Type} {shape : RecordShape α}

theorem gather_append_of_foreign {found : Found} {foreign : List (List Char × List Char)}
    (h : ∀ pair ∈ foreign, shape.member? pair.1 = none) (pairs : List (List Char × List Char)) :
    gather shape found (foreign ++ pairs) = gather shape found pairs := by
  induction foreign with
  | nil => rfl
  | cons pair foreign ih =>
      rw [List.forall_mem_cons] at h
      rw [List.cons_append, gather, h.1]
      exact ih h.2

end QueryString

namespace Confirmation

/-- Whether none of some pairs is read as the number or the code of a record. -/
def Foreign (pairs : List (List Char × List Char)) : Prop :=
  ∀ pair ∈ pairs, pair.1 ≠ "email_id".toList ∧ pair.1 ≠ "secret_code".toList

instance (pairs : List (List Char × List Char)) : Decidable (Foreign pairs) :=
  List.decidableBAll _ pairs

theorem member?_eq_none {name : List Char} (hid : name ≠ "email_id".toList)
    (hcode : name ≠ "secret_code".toList) : shape.member? name = none := by
  refine List.find?_eq_none.mpr fun member hmember => ?_
  simp only [shape, List.mem_cons, List.not_mem_nil, or_false] at hmember
  rcases hmember with rfl | rfl
  · simpa using Ne.symm hid
  · simpa using Ne.symm hcode

theorem read_linkPairs {record : Verification} {foreign : List (List Char × List Char)} {query : List UInt8}
    (hforeign : Foreign foreign) (hid : IntegerRange.signed64.holds record.id = true)
    (hquery : Form.pairs query = foreign ++ Mail.linkPairs record) :
    QueryString.read shape query = .ok ⟨record.id, record.secretCode⟩ := by
  have hgather : QueryString.gather shape [] (Form.pairs query) =
      .ok [("secret_code", .text record.secretCode.toList), ("email_id", .int record.id)] := by
    rw [hquery, QueryString.gather_append_of_foreign fun pair hpair =>
      member?_eq_none (hforeign pair hpair).1 (hforeign pair hpair).2]
    have hscalar : QueryString.scalar .int (Decimal.ofInt record.id) = .ok (.int record.id) := by
      rw [QueryString.scalar, Decimal.read_ofInt hid]
    have hidMember : shape.member? "email_id".toList = some ⟨"email_id", .int, false⟩ := by decide +kernel
    have hcodeMember : shape.member? "secret_code".toList = some ⟨"secret_code", .text, false⟩ := by
      decide +kernel
    simp only [Mail.linkPairs, QueryString.gather, hidMember, hcodeMember, hscalar]
    rfl
  have hbuild : shape.build [("secret_code", .text record.secretCode.toList), ("email_id", .int record.id)] =
      .ok ⟨record.id, record.secretCode⟩ := by
    simp [shape, Found.int, Found.text, List.lookup, bind, Except.bind, pure, Except.pure]
  rw [QueryString.read, hgather]
  dsimp only [bind, Except.bind]
  rw [hbuild]
  rfl

theorem check_eq_ok {confirmation : Confirmation} (hid : 0 < confirmation.recordId)
    (hcode : confirmation.secretCode.toList.length = Verification.codeLength) :
    confirmation.check = .ok () := by
  have hrecord : Field.recordId confirmation.recordId = .ok () := if_pos (decide_eq_true hid)
  have hlength : Field.secretCode confirmation.secretCode = .ok () := by
    rw [Field.secretCode, Field.length, hcode]
    rfl
  rw [check, hrecord]
  exact hlength

end Confirmation

namespace SecretCode

theorem length_ofDraws (draws : List (Fin 62)) : (ofDraws draws).toList.length = draws.length := by
  rw [ofDraws, String.toList_ofList, List.length_map]

end SecretCode

namespace Http

/-- A request to confirm an address, with the text of its query. -/
structure Request.Confirms (request : Request) (query : List Char) : Prop where
  method : request.method = "GET"
  target : request.target.toList = "/api/v1/verify_email".toList ++ '?' :: query

namespace Request.Confirms

variable {request : Request} {query : List Char}

theorem resource (h : request.Confirms query) (hquery : '#' ∉ query) :
    request.resource = ("/api/v1/verify_email".toList, query) := by
  have hpath : Url.Continues "/api/v1/verify_email".toList := .of_all (by decide +kernel)
  have hnumber : '#' ∉ "/api/v1/verify_email".toList ++ '?' :: query := by
    rw [List.mem_append, List.mem_cons]
    rintro (hmem | heq | hmem)
    · exact hpath.number_not_mem hmem
    · cases heq
    · exact hquery hmem
  rw [Request.resource, h.target, Split.first_of_not_mem hnumber, Split.first_append hpath.question_not_mem]

/-- What a request to confirm an address is answered, if its query is read and kept to the rules. -/
theorem respond_eq_execute (h : request.Confirms query) (hquery : '#' ∉ query) {confirmation : Confirmation}
    (hread : request.queryRecord Confirmation.shape = .ok confirmation) (hcheck : confirmation.check = .ok ())
    (limit : Nat) :
    respond limit request = answered 200 confirmationJson (.ok confirmation) fun confirmation =>
      Service.reported (confirmation.execute limit) := by
  have hpath : request.path = "/api/v1/verify_email".toList := congrArg Prod.fst (h.resource hquery)
  have hexecute : confirmation.checkAndExecute limit = Service.reported (confirmation.execute limit) := by
    rw [Confirmation.checkAndExecute, hcheck]
    rfl
  rw [respond_eq_serve limit .confirmEmail h.method hpath (by decide +kernel) (by decide), serve, hread]
  simp only [answered, hexecute]

end Request.Confirms

end Http

namespace Url

/-- The pairs of the query of a URL, in order. -/
def queryPairs (url : Url) : List (List Char × List Char) :=
  Form.pairs (Utf8.encode (url.query.getD []))

theorem queryPairs_withPairs (url : Url) (pairs : List (List Char × List Char)) :
    (url.withPairs pairs).queryPairs = url.queryPairs ++ pairs :=
  pairs_foldl_extendQuery (url.query.getD []) pairs

end Url

namespace Mail

open Http (Request)

/-- Whether a text greets somebody by name and offers a link to click on. -/
def Offers (name : String) (link : List Char) (content : String) : Prop :=
  content.toList = "Hello ".toList ++ name.toList ++
    ", <br/>Thank you for registering with us! <br/>Please <a href=\"".toList ++ link ++
    "\">click here</a> to verify your email address.<br/>".toList

theorem welcomeContent_offers (name : String) (link : List Char) :
    Offers name link (welcomeContent name link) := by
  simp only [Offers, welcomeContent, String.toList_append, String.toList_ofList]

def claire : User :=
  { username := "claire"
    passwordDigest := ""
    fullName := "Claire O"
    email := "claire@example.com"
    passwordChangedAt := ⟨0⟩
    isEmailVerified := false
    createdAt := ⟨0⟩ }

/-- A record whose code has the marks at which links and queries are cut. -/
def marked : Verification :=
  { id := 7
    username := claire.username
    email := claire.email
    secretCode := "&=+%#? \"\x27é€😀&email_id=8#?%26+%2B"
    isUsed := false
    createdAt := ⟨0⟩
    expiredAt := ⟨900000000⟩ }

/-- What the base of the link is read as. -/
def markedBase : Url :=
  { scheme := "https".toList
    host := some (.domain "bank.example".toList)
    path := .segments ["confirm".toList]
    query := some "from=a%26b&copy".toList
    fragment := some "top".toList }

theorem read_markedBase :
    Url.read "https://Bank.example/confirm?from=a%26b&copy#top".toList = .ok markedBase := by
  have hread : (Url.read "https://Bank.example/confirm?from=a%26b&copy#top".toList).toOption =
      some markedBase := by decide +kernel
  cases h : Url.read "https://Bank.example/confirm?from=a%26b&copy#top".toList with
  | error fault =>
      rw [h] at hread
      cases hread
  | ok url =>
      rw [h] at hread
      exact congrArg _ (Option.some.inj hread)

end Mail

end Passbook
