import Passbook.Proofs.Database.Execute
import Passbook.Proofs.Json.Reader
import Passbook.Proofs.Time.Instant

/-!
# What is shown of a row

Rows are shown as JSON texts. A text tells all columns of its row but the secret ones: two rows have the
same text exactly if they agree wherever no secret stands. Numbers of 64 bits and strings of any characters
are read back from the text, instants are read back from their own text, and each column has its place.
-/
namespace Passbook

/-- Whether the texts of rows with numbers of 64 bits tell them apart by what `view` keeps of them, and by
nothing else. -/
def TellsApart {α β : Type} (json : α → Json.Value) (integers : α → List Int) (view : α → β) : Prop :=
  ∀ a b, (∀ n ∈ integers a, IsBigint n) → (∀ n ∈ integers b, IsBigint n) →
    ((json a).render = (json b).render ↔ view a = view b)

theorem tellsApart_of {α β : Type} {json : α → Json.Value} {integers : α → List Int} {view : α → β}
    (hfits : ∀ a, (∀ n ∈ integers a, IsBigint n) → (json a).Fits)
    (hview : ∀ a b, json a = json b ↔ view a = view b) : TellsApart json integers view := fun a b ha hb => by
  rw [(hfits a ha).render_inj (hfits b hb), hview]

namespace Json.Value

theorem fits_int {n : Int} (h : IsBigint n) : (int n).Fits :=
  .int h.1 (Int.le_of_lt (Int.lt_trans h.2 (by decide)))

@[simp] theorem ofString_inj {s t : String} : ofString s = ofString t ↔ s = t := by
  rw [ofString, ofString, text.injEq, String.toList_inj]

end Json.Value

@[simp] theorem Instant.chars_inj {s t : Instant} : s.chars = t.chars ↔ s = t := chars_injective.eq_iff

open Json.Value (fits_int)

namespace Account

def integers (account : Account) : List Int := [account.id, account.balance]

theorem fits_json (account : Account) (h : ∀ n ∈ account.integers, IsBigint n) : account.json.Fits := by
  simp only [integers, List.forall_mem_cons] at h
  refine .object ?_
  simp only [List.forall_mem_cons]
  exact ⟨fits_int h.1, .text _, fits_int h.2.1, .text _, .text _, List.forall_mem_nil _⟩

theorem json_inj {a b : Account} : a.json = b.json ↔ a = b := by
  cases a
  cases b
  simp [json]

end Account

namespace Entry

def integers (entry : Entry) : List Int := [entry.id, entry.accountId, entry.amount]

theorem fits_json (entry : Entry) (h : ∀ n ∈ entry.integers, IsBigint n) : entry.json.Fits := by
  simp only [integers, List.forall_mem_cons] at h
  refine .object ?_
  simp only [List.forall_mem_cons]
  exact ⟨fits_int h.1, fits_int h.2.1, fits_int h.2.2.1, .text _, List.forall_mem_nil _⟩

theorem json_inj {a b : Entry} : a.json = b.json ↔ a = b := by
  cases a
  cases b
  simp [json]

end Entry

namespace Transfer

def integers (transfer : Transfer) : List Int :=
  [transfer.id, transfer.fromAccount, transfer.toAccount, transfer.amount]

theorem fits_json (transfer : Transfer) (h : ∀ n ∈ transfer.integers, IsBigint n) : transfer.json.Fits := by
  simp only [integers, List.forall_mem_cons] at h
  refine .object ?_
  simp only [List.forall_mem_cons]
  exact ⟨fits_int h.1, fits_int h.2.1, fits_int h.2.2.1, fits_int h.2.2.2.1, .text _, List.forall_mem_nil _⟩

theorem json_inj {a b : Transfer} : a.json = b.json ↔ a = b := by
  cases a
  cases b
  simp [json]

end Transfer

namespace TransferReceipt

def integers (receipt : TransferReceipt) : List Int :=
  receipt.transfer.integers ++ (receipt.fromAccount.integers ++ (receipt.toAccount.integers ++
    (receipt.fromEntry.integers ++ receipt.toEntry.integers)))

theorem fits_json (receipt : TransferReceipt) (h : ∀ n ∈ receipt.integers, IsBigint n) :
    receipt.json.Fits := by
  simp only [integers, List.forall_mem_append] at h
  refine .object ?_
  simp only [List.forall_mem_cons]
  exact ⟨receipt.transfer.fits_json h.1, receipt.fromAccount.fits_json h.2.1,
    receipt.toAccount.fits_json h.2.2.1, receipt.fromEntry.fits_json h.2.2.2.1,
    receipt.toEntry.fits_json h.2.2.2.2, List.forall_mem_nil _⟩

theorem json_inj {a b : TransferReceipt} : a.json = b.json ↔ a = b := by
  cases a
  cases b
  simp [json, Transfer.json_inj, Account.json_inj, Entry.json_inj]

end TransferReceipt

namespace Verification

def integers (record : Verification) : List Int := [record.id]

def withoutCode (record : Verification) : Verification := { record with secretCode := "" }

theorem fits_json (record : Verification) (h : ∀ n ∈ record.integers, IsBigint n) : record.json.Fits := by
  simp only [integers, List.forall_mem_cons] at h
  refine .object ?_
  simp only [List.forall_mem_cons]
  exact ⟨fits_int h.1, .text _, .text _, .bool _, .text _, .text _, List.forall_mem_nil _⟩

theorem json_eq_iff {a b : Verification} : a.json = b.json ↔ a.withoutCode = b.withoutCode := by
  cases a
  cases b
  simp [json, withoutCode]

end Verification

namespace User

def withoutDigest (user : User) : User := { user with passwordDigest := "" }

theorem fits_publicJson (user : User) : user.publicJson.Fits := by
  refine .object ?_
  simp only [List.forall_mem_cons]
  exact ⟨.text _, .text _, .text _, .bool _, .text _, .text _, List.forall_mem_nil _⟩

theorem publicJson_eq_iff {a b : User} : a.publicJson = b.publicJson ↔ a.withoutDigest = b.withoutDigest := by
  cases a
  cases b
  simp [publicJson, withoutDigest, and_comm, and_left_comm]

end User

/-- What is shown of rows tells them apart by all their columns except the code of a verification record and
the digest of the password of a user; the text of an instant tells it from all others. -/
theorem rows_told_apart :
    TellsApart Account.json Account.integers id ∧
      TellsApart Entry.json Entry.integers id ∧
      TellsApart Transfer.json Transfer.integers id ∧
      TellsApart TransferReceipt.json TransferReceipt.integers id ∧
      TellsApart Verification.json Verification.integers Verification.withoutCode ∧
      TellsApart User.publicJson (fun _ => []) User.withoutDigest ∧
      ∀ s t : Instant, s.text = t.text ↔ s = t :=
  ⟨tellsApart_of Account.fits_json fun _ _ => Account.json_inj,
    tellsApart_of Entry.fits_json fun _ _ => Entry.json_inj,
    tellsApart_of Transfer.fits_json fun _ _ => Transfer.json_inj,
    tellsApart_of TransferReceipt.fits_json fun _ _ => TransferReceipt.json_inj,
    tellsApart_of Verification.fits_json fun _ _ => Verification.json_eq_iff,
    tellsApart_of (fun user _ => user.fits_publicJson) fun _ _ => User.publicJson_eq_iff,
    fun _ _ => Instant.text_inj⟩

/-- A record that was made before the year 0 and expires behind the year 9999. -/
def ageless : Verification :=
  { id := -0x8000000000000000
    username := "\"\\\u0000é😀"
    email := ""
    secretCode := "a"
    isUsed := true
    createdAt := ⟨-62198755200000001⟩
    expiredAt := ⟨253402300800000000⟩ }

/-- Another code does not show, and a single microsecond does. -/
theorem rows_told_apart_ageless :
    (∀ n ∈ ageless.integers, IsBigint n) ∧
      ageless.json.render = { ageless with secretCode := "b" }.json.render ∧
      ageless.json.render ≠ { ageless with expiredAt := ⟨253402300800000001⟩ }.json.render := by
  have hbigint : ∀ n ∈ ageless.integers, IsBigint n := by decide
  obtain ⟨-, -, -, -, hrecords, -⟩ := rows_told_apart
  have hcode := hrecords ageless { ageless with secretCode := "b" } hbigint hbigint
  have hinstant := hrecords ageless { ageless with expiredAt := ⟨253402300800000001⟩ } hbigint hbigint
  refine ⟨hbigint, hcode.mpr rfl, fun h => ?_⟩
  have hmicros := congrArg (fun record => record.expiredAt.micros) (hinstant.mp h)
  exact absurd hmicros (by decide)

end Passbook
