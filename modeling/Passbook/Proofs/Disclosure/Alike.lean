import Mathlib.Data.List.Forall2
import Passbook.Store.Query

/-!
# Answers that differ in what is to stay inside

Two answers of the database are alike if they are equal up to what no client is to learn: the texts
of messages of the database, the digests of passwords, and the secret codes of verification records.
A code that a client presents may show whether it is the right one, so of two codes that are alike
both or neither equal the one that was presented.

Answers that are alike are read as records that are alike, with the same faults, and faults that are
alike amount to failures that are alike. Accounts, entries and transfers hold nothing that is to stay
inside, so theirs are equal.
-/
namespace Passbook

variable {α β : Type}

/-- Results that are both errors or both values, and are related as such. -/
inductive Matching {ε : Type} (errors : ε → ε → Prop) (values : α → α → Prop) :
    Except ε α → Except ε α → Prop
  | error {e e' : ε} : errors e e' → Matching errors values (.error e) (.error e')
  | ok {a a' : α} : values a a' → Matching errors values (.ok a) (.ok a')

namespace Matching

variable {ε : Type} {errors : ε → ε → Prop} {values : α → α → Prop}

theorem of_eq {x x' : Except ε α} (herrors : ∀ e, errors e e) (hvalues : ∀ a, values a a)
    (h : x = x') : Matching errors values x x' := by
  subst h
  cases x with
  | error e => exact .error (herrors e)
  | ok a => exact .ok (hvalues a)

theorem mono {errors' : ε → ε → Prop} {values' : α → α → Prop} {x x' : Except ε α}
    (h : Matching errors values x x') (herrors : ∀ e e', errors e e' → errors' e e')
    (hvalues : ∀ a a', values a a' → values' a a') : Matching errors' values' x x' := by
  cases h with
  | error h => exact .error (herrors _ _ h)
  | ok h => exact .ok (hvalues _ _ h)

/-- Going on with related values. -/
theorem bind {values' : β → β → Prop} {x x' : Except ε α} {f f' : α → Except ε β}
    (h : Matching errors values x x')
    (hf : ∀ a a', values a a' → Matching errors values' (f a) (f' a')) :
    Matching errors values' (x >>= f) (x' >>= f') := by
  cases h with
  | error h => exact .error h
  | ok h => exact hf _ _ h

/-- Going on with what is the same in both. -/
theorem bind_eq {values' : β → β → Prop} {x x' : Except ε α} {f f' : α → Except ε β}
    (herrors : ∀ e, errors e e) (h : x = x') (hf : ∀ a, Matching errors values' (f a) (f' a)) :
    Matching errors values' (x >>= f) (x' >>= f') := by
  subst h
  cases x with
  | error e => exact .error (herrors e)
  | ok a => exact hf a

end Matching

def Refusal.Alike (a b : Refusal) : Prop := a.code = b.code ∧ a.constraint = b.constraint

theorem Refusal.Alike.refl (refusal : Refusal) : refusal.Alike refusal := ⟨rfl, rfl⟩

/-- Faults that differ at most in the text that the database or its driver puts into them. -/
inductive StorageFault.Alike : StorageFault → StorageFault → Prop
  | same (fault : StorageFault) : Alike fault fault
  | refused {a b : Refusal} : a.Alike b → Alike (.refused a) (.refused b)
  | protocol (a b : String) : Alike (.protocol a) (.protocol b)

/-- Failures that differ at most in the faults behind them. -/
inductive Failure.Alike : Failure → Failure → Prop
  | same (failure : Failure) : Alike failure failure
  | storageFailure {a b : StorageFault} : a.Alike b → Alike (.storageFailure a) (.storageFailure b)
  | commitFailed {a b : StorageFault} : a.Alike b → Alike (.commitFailed a) (.commitFailed b)
  | rollbackFailed {cause cause' : Failure} {a b : StorageFault} : Alike cause cause' → a.Alike b →
      Alike (.rollbackFailed cause a) (.rollbackFailed cause' b)

/-- The meaning of a refusal does not depend on its message. -/
theorem Refusal.Alike.ofRefusal? {a b : Refusal} (h : a.Alike b) :
    Failure.ofRefusal? a = Failure.ofRefusal? b := by
  simp only [Failure.ofRefusal?, h.1, h.2]

theorem StorageFault.Alike.ofFault {a b : StorageFault} (h : a.Alike b) :
    (Failure.ofFault a).Alike (Failure.ofFault b) := by
  cases h with
  | same => exact .same _
  | protocol a b => exact .storageFailure (.protocol a b)
  | @refused a b h =>
      simp only [Failure.ofFault, h.ofRefusal?]
      cases Failure.ofRefusal? b with
      | none => exact .storageFailure (.refused h)
      | some failure => exact .same failure

/-- A lost connection is told from everything else. -/
theorem StorageFault.Alike.connectionLost_iff {a b : StorageFault} (h : a.Alike b) :
    a = .connectionLost ↔ b = .connectionLost := by
  cases h with
  | same => exact Iff.rfl
  | refused => exact ⟨nofun, nofun⟩
  | protocol => exact ⟨nofun, nofun⟩

/-- Codes of which both or neither equal the one that was presented, if any was. -/
def AlikeCodes (presented? : Option String) (a b : String) : Prop :=
  ∀ presented ∈ presented?, a = presented ↔ b = presented

theorem AlikeCodes.beq {presented a b : String} (h : AlikeCodes (some presented) a b) :
    (a == presented) = (b == presented) := by
  rw [Bool.eq_iff_iff, beq_iff_eq, beq_iff_eq]
  exact h presented rfl

variable {presented? : Option String}

/-- Values of the column `name` that are equal unless they are to stay inside. -/
inductive Cell.Alike (presented? : Option String) (name : String) : Cell → Cell → Prop
  | same (cell : Cell) : Alike presented? name cell cell
  | digest (a b : String) : name = "hashed_password" → Alike presented? name (.text a) (.text b)
  | code {a b : String} : name = "secret_code" → AlikeCodes presented? a b →
      Alike presented? name (.text a) (.text b)

abbrev Row.Alike (presented? : Option String) : Row → Row → Prop :=
  List.Forall₂ fun column column' =>
    column.1 = column'.1 ∧ Cell.Alike presented? column.1 column.2 column'.2

namespace Row.Alike

variable {row row' : Row}

theorem lookup (h : Row.Alike presented? row row') (name : String) :
    Option.Rel (Cell.Alike presented? name) (row.lookup name) (row'.lookup name) := by
  induction h with
  | nil => exact .none
  | @cons column column' rest rest' hcolumn _ ih =>
      obtain ⟨key, cell⟩ := column
      obtain ⟨key', cell'⟩ := column'
      obtain ⟨rfl, hcell⟩ := hcolumn
      rw [List.lookup_cons, List.lookup_cons]
      cases hname : name == key with
      | true =>
          rw [beq_iff_eq] at hname
          subst hname
          exact .some hcell
      | false => exact ih

theorem int (h : Row.Alike presented? row row') (name : String) : row.int name = row'.int name := by
  unfold Row.int
  have hcells := h.lookup name
  generalize row.lookup name = found, row'.lookup name = found' at hcells ⊢
  cases hcells with
  | none => rfl
  | some hcell => cases hcell <;> rfl

theorem instant (h : Row.Alike presented? row row') (name : String) :
    row.instant name = row'.instant name := by
  rw [Row.instant, Row.instant, h.int]

theorem bool (h : Row.Alike presented? row row') (name : String) : row.bool name = row'.bool name := by
  unfold Row.bool
  have hcells := h.lookup name
  generalize row.lookup name = found, row'.lookup name = found' at hcells ⊢
  cases hcells with
  | none => rfl
  | some hcell => cases hcell <;> rfl

theorem text (h : Row.Alike presented? row row') {name : String} (hdigest : name ≠ "hashed_password")
    (hcode : name ≠ "secret_code") : row.text name = row'.text name := by
  unfold Row.text
  have hcells := h.lookup name
  generalize row.lookup name = found, row'.lookup name = found' at hcells ⊢
  cases hcells with
  | none => rfl
  | some hcell =>
      cases hcell with
      | same => rfl
      | digest _ _ hname => exact absurd hname hdigest
      | code hname => exact absurd hname hcode

theorem digest (h : Row.Alike presented? row row') :
    Matching Eq (fun _ _ => True) (row.text "hashed_password") (row'.text "hashed_password") := by
  unfold Row.text
  have hcells := h.lookup "hashed_password"
  generalize row.lookup "hashed_password" = found, row'.lookup "hashed_password" = found' at hcells ⊢
  cases hcells with
  | none => exact .error rfl
  | some hcell =>
      cases hcell with
      | same => exact .of_eq (fun _ => rfl) (fun _ => trivial) rfl
      | digest => exact .ok trivial
      | code => exact .ok trivial

theorem code (h : Row.Alike presented? row row') :
    Matching Eq (AlikeCodes presented?) (row.text "secret_code") (row'.text "secret_code") := by
  unfold Row.text
  have hcells := h.lookup "secret_code"
  generalize row.lookup "secret_code" = found, row'.lookup "secret_code" = found' at hcells ⊢
  cases hcells with
  | none => exact .error rfl
  | some hcell =>
      cases hcell with
      | same => exact .of_eq (fun _ => rfl) (fun _ _ _ => Iff.rfl) rfl
      | digest _ _ hname => exact absurd hname (by decide)
      | code _ hcodes => exact .ok hcodes

theorem mapM_eq {rows rows' : List Row} {read : Row → Except StorageFault α}
    (h : List.Forall₂ (Row.Alike presented?) rows rows')
    (hread : ∀ row row', Row.Alike presented? row row' → read row = read row') :
    rows.mapM read = rows'.mapM read := by
  induction h with
  | nil => rfl
  | cons hrow _ ih => rw [List.mapM_cons, List.mapM_cons, hread _ _ hrow, ih]

end Row.Alike

/-- Users that differ at most in the digest of the password. -/
def User.Alike (a b : User) : Prop := ∃ digest, b = { a with passwordDigest := digest }

def Verification.Alike (presented? : Option String) (a b : Verification) : Prop :=
  ∃ code, b = { a with secretCode := code } ∧ AlikeCodes presented? a.secretCode code

theorem User.Alike.publicJson {a b : User} (h : a.Alike b) : a.publicJson = b.publicJson := by
  obtain ⟨digest, rfl⟩ := h
  rfl

theorem Verification.Alike.accepts {presented : String} {a b : Verification}
    (h : Verification.Alike (some presented) a b) (now : Instant) :
    a.accepts presented now = b.accepts presented now := by
  obtain ⟨code, rfl, hcodes⟩ := h
  simp only [Verification.accepts, hcodes.beq]

section Readers
variable {row row' : Row} (h : Row.Alike presented? row row')
include h

theorem Account.ofRow_alike : Account.ofRow row = Account.ofRow row' := by
  have howner : row.text "owner" = row'.text "owner" := h.text (by decide) (by decide)
  have hcurrency : row.text "currency" = row'.text "currency" := h.text (by decide) (by decide)
  simp only [Account.ofRow, h.int, h.instant, howner, hcurrency]

theorem Entry.ofRow_alike : Entry.ofRow row = Entry.ofRow row' := by
  simp only [Entry.ofRow, h.int, h.instant]

theorem Transfer.ofRow_alike : Transfer.ofRow row = Transfer.ofRow row' := by
  simp only [Transfer.ofRow, h.int, h.instant]

theorem User.ofRow_alike : Matching Eq User.Alike (User.ofRow row) (User.ofRow row') := by
  refine .bind_eq (fun _ => rfl) (h.text (by decide) (by decide)) fun username => ?_
  refine h.digest.bind fun _ digest _ => ?_
  refine .bind_eq (fun _ => rfl) (h.text (by decide) (by decide)) fun fullName => ?_
  refine .bind_eq (fun _ => rfl) (h.text (by decide) (by decide)) fun email => ?_
  refine .bind_eq (fun _ => rfl) (h.instant _) fun passwordChangedAt => ?_
  refine .bind_eq (fun _ => rfl) (h.bool _) fun isEmailVerified => ?_
  refine .bind_eq (fun _ => rfl) (h.instant _) fun createdAt => ?_
  exact .ok ⟨digest, rfl⟩

theorem Verification.ofRow_alike :
    Matching Eq (Verification.Alike presented?) (Verification.ofRow row) (Verification.ofRow row') := by
  refine .bind_eq (fun _ => rfl) (h.int _) fun id => ?_
  refine .bind_eq (fun _ => rfl) (h.text (by decide) (by decide)) fun username => ?_
  refine .bind_eq (fun _ => rfl) (h.text (by decide) (by decide)) fun email => ?_
  refine h.code.bind fun _ code hcodes => ?_
  refine .bind_eq (fun _ => rfl) (h.bool _) fun isUsed => ?_
  refine .bind_eq (fun _ => rfl) (h.instant _) fun createdAt => ?_
  refine .bind_eq (fun _ => rfl) (h.instant _) fun expiredAt => ?_
  exact .ok ⟨code, rfl, hcodes⟩

end Readers

structure Answer.Alike (presented? : Option String) (a b : Answer) : Prop where
  rows : List.Forall₂ (Row.Alike presented?) a.rows b.rows
  affected : a.affected = b.affected

/-- What comes back for a command, alike in both cases. -/
abbrev AlikeOutcomes (presented? : Option String) :
    Except StorageFault Answer → Except StorageFault Answer → Prop :=
  Matching StorageFault.Alike (Answer.Alike presented?)

namespace Answer.Alike

variable {a b : Answer} {values : α → α → Prop} {read : Row → Except StorageFault α}

theorem one (h : a.Alike presented? b)
    (hread : ∀ row row', Row.Alike presented? row row' → Matching Eq values (read row) (read row')) :
    Matching Eq values (a.one read) (b.one read) := by
  obtain ⟨rows, _⟩ := a
  obtain ⟨rows', _⟩ := b
  unfold Answer.one
  cases h.rows with
  | nil => exact .error rfl
  | cons hrow _ => exact hread _ _ hrow

theorem all (h : a.Alike presented? b)
    (hread : ∀ row row', Row.Alike presented? row row' → read row = read row') :
    a.all read = b.all read := Row.Alike.mapM_eq h.rows hread

end Answer.Alike

/-- Whether a query reads answers that are alike as values that are related by `values`. -/
def Query.Reads (presented? : Option String) (values : α → α → Prop) (query : Query α) : Prop :=
  ∀ a b : Answer, a.Alike presented? b → Matching Eq values (query.read a) (query.read b)

namespace Query

theorem Reads.result {values : α → α → Prop} {query : Query α} (h : query.Reads presented? values)
    {outcome outcome' : Except StorageFault Answer} (houtcome : AlikeOutcomes presented? outcome outcome') :
    Matching Failure.Alike values (query.result outcome) (query.result outcome') := by
  cases houtcome with
  | error hfault => exact .error hfault.ofFault
  | @ok a b hanswer =>
      have hread := h a b hanswer
      simp only [Query.result]
      generalize query.read a = value, query.read b = value' at hread ⊢
      cases hread with
      | error hfault => exact .error (hfault ▸ .same _)
      | ok hvalue => exact .ok hvalue

/-- A query for one record that holds nothing to stay inside reads the same. -/
theorem reads_one {read : Row → Except StorageFault α} (statement : Statement)
    (hread : ∀ row row', Row.Alike presented? row row' → read row = read row') :
    Query.Reads presented? Eq ⟨statement, Answer.one read⟩ := fun _ _ hanswer =>
  hanswer.one fun _ _ hrow => .of_eq (fun _ => rfl) (fun _ => rfl) (hread _ _ hrow)

theorem reads_all {read : Row → Except StorageFault α} (statement : Statement)
    (hread : ∀ row row', Row.Alike presented? row row' → read row = read row') :
    Query.Reads presented? Eq ⟨statement, Answer.all read⟩ := fun _ _ hanswer =>
  .of_eq (fun _ => rfl) (fun _ => rfl) (hanswer.all hread)

theorem reads_user (statement : Statement) :
    Query.Reads presented? User.Alike ⟨statement, Answer.one User.ofRow⟩ := fun _ _ hanswer =>
  hanswer.one fun _ _ hrow => User.ofRow_alike hrow

theorem reads_verification (statement : Statement) :
    Query.Reads presented? (Verification.Alike presented?) ⟨statement, Answer.one Verification.ofRow⟩ :=
  fun _ _ hanswer => hanswer.one fun _ _ hrow => Verification.ofRow_alike hrow

theorem reads_probe : Query.Reads presented? Eq Query.probe := fun _ _ _ => .ok rfl

end Query
end Passbook
