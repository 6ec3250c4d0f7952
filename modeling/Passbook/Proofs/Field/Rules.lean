import Passbook.Http.Operations
import Passbook.Proofs.Http.Pages

/-!
# The rules of the fields

What the fields of a record have to be is said here without the checks: how long texts are and of which
characters, the shape of an email address, the numbers that are admitted. Each record has its rules in one
order, and each rule has a notice for those who break it. A check enforces a list of rules if it refuses
with the notice of the first rule that is broken, and with no other, and admits what breaks none of them.
-/
namespace Passbook

open Http (Notice)

/-- Something that has to be so, with the notice for those who break it. -/
structure Rule where
  Kept : Prop
  notice : Notice

namespace Rule

/-- A rule of a field. Who breaks it has sent an invalid request. -/
def field (kept : Prop) (reason : String) : Rule := ⟨kept, ⟨400, "invalid_request", reason⟩⟩

/-- A rule of transfers. -/
def transfer (kept : Prop) (reason : String) : Rule := ⟨kept, ⟨400, "invalid_transfer", reason⟩⟩

/-- Whether a rule is the first one of a list that is broken. -/
inductive FirstBroken : List Rule → Rule → Prop
  | here {rule rules} : ¬rule.Kept → FirstBroken (rule :: rules) rule
  | later {first rules rule} : first.Kept → FirstBroken rules rule → FirstBroken (first :: rules) rule

variable {rules rules' : List Rule} {rule : Rule}

theorem FirstBroken.mem (h : FirstBroken rules rule) : rule ∈ rules := by
  induction h with
  | here => exact List.mem_cons_self
  | later _ _ ih => exact List.mem_cons_of_mem _ ih

theorem FirstBroken.not_kept (h : FirstBroken rules rule) : ¬rule.Kept := by
  induction h with
  | here hbroken => exact hbroken
  | later _ _ ih => exact ih

/-- A rule that is broken in two lists together is broken in the first one, or in the second one where
the first one is kept. -/
theorem FirstBroken.of_append (h : FirstBroken (rules ++ rules') rule) :
    FirstBroken rules rule ∨ (∀ first ∈ rules, first.Kept) ∧ FirstBroken rules' rule := by
  induction rules with
  | nil => exact .inr ⟨fun _ h => absurd h List.not_mem_nil, h⟩
  | cons first rules ih =>
      cases h with
      | here hbroken => exact .inl (.here hbroken)
      | later hkept hbroken =>
          rcases ih hbroken with hbroken | ⟨hrest, hbroken⟩
          · exact .inl (.later hkept hbroken)
          · exact .inr ⟨List.forall_mem_cons.mpr ⟨hkept, hrest⟩, hbroken⟩

/-- Where not all rules are kept, one of them is the first that is broken. -/
theorem exists_firstBroken (rules : List Rule) :
    (∀ rule ∈ rules, rule.Kept) ∨ ∃ rule, FirstBroken rules rule := by
  induction rules with
  | nil => exact .inl fun _ h => absurd h List.not_mem_nil
  | cons first rules ih =>
      by_cases hkept : first.Kept
      case neg => exact .inr ⟨first, .here hkept⟩
      case pos =>
        rcases ih with hall | ⟨rule, hbroken⟩
        · exact .inl (List.forall_mem_cons.mpr ⟨hkept, hall⟩)
        · exact .inr ⟨rule, .later hkept hbroken⟩

variable {ε α β : Type} {tells : ε → Notice}

/-- Whether a check whose faults are told in this way enforces a list of rules. -/
structure Enforces (tells : ε → Notice) (rules : List Rule) (check : Except ε α) : Prop where
  refuses : ∀ {rule}, FirstBroken rules rule → ∃ fault, check = .error fault ∧ tells fault = rule.notice
  admits : (∀ rule ∈ rules, rule.Kept) → ∃ value, check = .ok value

/-- What is admitted keeps all rules. -/
theorem Enforces.kept_of_ok {check : Except ε α} {value : α} (h : Enforces tells rules check)
    (hok : check = .ok value) : ∀ rule ∈ rules, rule.Kept := by
  rcases exists_firstBroken rules with hkept | ⟨rule, hbroken⟩
  · exact hkept
  · obtain ⟨fault, hfault, -⟩ := h.refuses hbroken
    cases hfault.symm.trans hok

/-- One check behind another. The second one may rely on the rules of the first. -/
theorem Enforces.bind {check : Except ε α} {next : α → Except ε β} (h : Enforces tells rules check)
    (hnext : (∀ rule ∈ rules, rule.Kept) → ∀ value, Enforces tells rules' (next value)) :
    Enforces tells (rules ++ rules') (check >>= next) where
  refuses hbroken := by
    rcases hbroken.of_append with hbroken | ⟨hkept, hbroken⟩
    · obtain ⟨fault, hfault, htells⟩ := h.refuses hbroken
      exact ⟨fault, by rw [hfault]; rfl, htells⟩
    · obtain ⟨value, hvalue⟩ := h.admits hkept
      rw [hvalue]
      exact (hnext hkept value).refuses hbroken
  admits hkept := by
    obtain ⟨hfirst, hsecond⟩ := List.forall_mem_append.mp hkept
    obtain ⟨value, hvalue⟩ := h.admits hfirst
    rw [hvalue]
    exact (hnext hfirst value).admits hsecond

theorem Enforces.cons {check : Except ε α} {next : α → Except ε β} (h : Enforces tells [rule] check)
    (hnext : ∀ value, Enforces tells rules (next value)) : Enforces tells (rule :: rules) (check >>= next) :=
  h.bind fun _ => hnext

theorem enforces_require {condition : Bool} {fault : FieldFault} {tells : FieldFault → Notice} {kept : Prop}
    {notice : Notice} (hiff : condition = true ↔ kept) (htells : tells fault = notice) :
    Enforces tells [⟨kept, notice⟩] (Field.require condition fault) where
  refuses hbroken := by
    cases hbroken with
    | here hbroken => exact ⟨fault, if_neg fun hcondition => hbroken (hiff.mp hcondition), htells⟩
    | later _ hbroken => cases hbroken
  admits hkept := ⟨(), if_pos (hiff.mpr (hkept _ List.mem_cons_self))⟩

end Rule

def IsLong (min max : Nat) (value : String) : Prop := min ≤ value.toList.length ∧ value.toList.length ≤ max

/-- Whether a text is made of small letters, digits and underscores, all of ASCII. -/
def IsUsername (value : String) : Prop :=
  ∀ c ∈ value.toList, 'a' ≤ c ∧ c ≤ 'z' ∨ '0' ≤ c ∧ c ≤ '9' ∨ c = '_'

def IsFullName (value : String) : Prop := ∀ c ∈ value.toList, Unicode.isAlphabetic c = true ∨ c = ' '

/-- Whether a text has the shape of an email address: something in front of its only `@`, behind that
something with a dot, but not at either end, and no blanks. -/
def IsAddress (value : List Char) : Prop :=
  (∃ front domain, value = front ++ '@' :: domain ∧ front ≠ [] ∧ '@' ∉ front ∧ '@' ∉ domain ∧ '.' ∈ domain ∧
    domain.head? ≠ some '.' ∧ domain.getLast? ≠ some '.') ∧
  ∀ c ∈ value, Unicode.isBlank c = false

namespace Split

variable {α : Type} [DecidableEq α] {mark : α}

theorem first_spec {s : List α} (h : mark ∈ s) :
    s = (first mark s).1 ++ mark :: (first mark s).2 ∧ mark ∉ (first mark s).1 := by
  induction s with
  | nil => exact absurd h List.not_mem_nil
  | cons a rest ih =>
      by_cases ha : a = mark
      case pos =>
        rw [first, if_pos ha]
        exact ⟨congrArg (· :: rest) ha, List.not_mem_nil⟩
      case neg =>
        obtain ⟨hrest, hfront⟩ := ih ((List.mem_cons.mp h).resolve_left (Ne.symm ha))
        rw [first, if_neg ha]
        exact ⟨congrArg (a :: ·) hrest, fun hmem => (List.mem_cons.mp hmem).elim (Ne.symm ha) hfront⟩

theorem exists_piece {s : List α} {a : α} (h : a ∈ s) (hne : a ≠ mark) : ∃ piece ∈ all mark s, a ∈ piece := by
  induction s with
  | nil => exact absurd h List.not_mem_nil
  | cons b rest ih =>
      by_cases hb : b = mark
      case pos =>
        have hrest : a ∈ rest := (List.mem_cons.mp h).resolve_left fun heq => hne (heq.trans hb)
        obtain ⟨piece, hpiece, ha⟩ := ih hrest
        rw [all, if_pos hb]
        exact ⟨piece, List.mem_cons_of_mem _ hpiece, ha⟩
      case neg =>
        rw [all, if_neg hb]
        cases hall : all mark rest with
        | nil => exact absurd hall (all_ne_nil mark rest)
        | cons first pieces =>
            rcases List.mem_cons.mp h with rfl | h
            · exact ⟨a :: first, List.mem_cons_self, List.mem_cons_self⟩
            · obtain ⟨piece, hpiece, ha⟩ := ih h
              rw [hall] at hpiece
              rcases List.mem_cons.mp hpiece with rfl | hpiece
              · exact ⟨b :: piece, List.mem_cons_self, List.mem_cons_of_mem b ha⟩
              · exact ⟨piece, List.mem_cons_of_mem _ hpiece, ha⟩

end Split

namespace Field

theorem isUsernameChar_iff {c : Char} :
    isUsernameChar c = true ↔ 'a' ≤ c ∧ c ≤ 'z' ∨ '0' ≤ c ∧ c ≤ '9' ∨ c = '_' := by
  simp only [isUsernameChar, Char.isLower, Char.isDigit, Bool.or_eq_true, Bool.and_eq_true, decide_eq_true_eq,
    beq_iff_eq, or_assoc]
  rfl

theorem all_isUsernameChar {value : String} : value.toList.all isUsernameChar = true ↔ IsUsername value := by
  simp only [List.all_eq_true, isUsernameChar_iff, IsUsername]

theorem all_isFullNameChar {value : String} : value.toList.all isFullNameChar = true ↔ IsFullName value := by
  simp only [List.all_eq_true, isFullNameChar, Bool.or_eq_true, beq_iff_eq, IsFullName]

theorem one_label {part : List Char} {c : Char} (hc : c ∈ part) (hne : c ≠ '.') :
    1 ≤ ((Split.all '.' part).filter fun label => !label.isEmpty).length := by
  obtain ⟨label, hlabel, hmem⟩ := Split.exists_piece hc hne
  refine List.length_pos_of_mem (List.mem_filter.mpr ⟨hlabel, ?_⟩)
  simpa using List.ne_nil_of_mem hmem

/-- Two labels that are not empty, one on either side of a dot, if the dot stands at neither end. -/
theorem two_labels {domain : List Char} (hhead : domain.head? ≠ some '.') (hlast : domain.getLast? ≠ some '.') :
    2 ≤ ((Split.all '.' domain).filter fun label => !label.isEmpty).length ↔ '.' ∈ domain := by
  constructor
  case mp =>
    intro h
    by_contra hdot
    rw [Split.all_of_not_mem hdot] at h
    have := List.length_filter_le (fun label : List Char => !label.isEmpty) [domain]
    simp only [List.length_singleton] at this
    omega
  case mpr =>
    intro hdot
    obtain ⟨hdomain, -⟩ := Split.first_spec hdot
    generalize (Split.first '.' domain).1 = front at hdomain
    generalize (Split.first '.' domain).2 = back at hdomain
    subst hdomain
    cases front with
    | nil => exact absurd rfl hhead
    | cons c front =>
        have hend : (c :: front ++ '.' :: back).getLast? = some (back.getLast?.getD '.') := by
          rw [List.getLast?_append, List.getLast?_cons]
          rfl
        rw [hend] at hlast
        cases hback : back.getLast? with
        | none => exact absurd (by rw [hback]; rfl) hlast
        | some d =>
            rw [hback] at hlast
            have hc : c ≠ '.' := fun heq => hhead (congrArg some heq)
            have hd : d ≠ '.' := fun heq => hlast (congrArg some heq)
            have hfirst := one_label (List.mem_cons_self (l := front)) hc
            have hsecond := one_label (List.mem_of_getLast? hback) hd
            rw [Split.all_append, List.filter_append, List.length_append]
            omega

theorem isDomain_iff {domain : List Char} : isDomain domain = true ↔
    '@' ∉ domain ∧ '.' ∈ domain ∧ domain.head? ≠ some '.' ∧ domain.getLast? ≠ some '.' := by
  simp only [isDomain, Bool.and_eq_true, Bool.not_eq_true', List.contains_eq_mem, decide_eq_false_iff_not,
    decide_eq_true_eq, bne_iff_ne]
  constructor
  · rintro ⟨⟨⟨hat, hlabels⟩, hhead⟩, hlast⟩
    exact ⟨hat, (two_labels hhead hlast).mp hlabels, hhead, hlast⟩
  · rintro ⟨hat, hdot, hhead, hlast⟩
    exact ⟨⟨⟨hat, (two_labels hhead hlast).mpr hdot⟩, hhead⟩, hlast⟩

theorem isEmail_iff {value : List Char} : isEmail value = true ↔ IsAddress value := by
  have hblank : (!value.any Unicode.isBlank) = true ↔ ∀ c ∈ value, Unicode.isBlank c = false := by
    simp
  by_cases hat : '@' ∈ value
  case neg =>
    rw [isEmail, Split.first?, if_neg hat]
    refine iff_of_false (by simp) ?_
    rintro ⟨⟨front, domain, hvalue, -⟩, -⟩
    refine hat ?_
    rw [hvalue]
    exact List.mem_append_right _ List.mem_cons_self
  case pos =>
    obtain ⟨hvalue, hfirst⟩ := Split.first_spec hat
    rw [isEmail, Split.first?, if_pos hat]
    simp only [Bool.and_eq_true, hblank, isDomain_iff, IsAddress]
    refine and_congr_left fun _ => ⟨?_, ?_⟩
    · rintro ⟨hfront, hdomain⟩
      exact ⟨_, _, hvalue, by simpa using hfront, hfirst, hdomain⟩
    · rintro ⟨front, domain, heq, hfront, hnot, hdomain⟩
      have hparts := Split.first_append hnot domain
      rw [← heq] at hparts
      rw [hparts]
      exact ⟨by simpa using hfront, hdomain⟩

end Field

open Rule (Enforces enforces_require)

/-- What a client is told about a fault of a field. -/
def FieldFault.notice (fault : FieldFault) : Notice := (Http.Problem.invalidRequest fault.message).notice

theorem FieldFault.notice_eq {fault : FieldFault} {reason : String} (h : fault.message = reason) :
    fault.notice = ⟨400, "invalid_request", reason⟩ :=
  congrArg (Notice.mk 400 "invalid_request") h

namespace Field

variable {value reason : String}

theorem enforces_field {condition : Bool} {fault : FieldFault} {kept : Prop} (hiff : condition = true ↔ kept)
    (hreason : fault.message = reason) :
    Enforces FieldFault.notice [.field kept reason] (require condition fault) :=
  enforces_require hiff (FieldFault.notice_eq hreason)

theorem length_enforces {name : String} {min max : Nat}
    (hreason : (FieldFault.length name min max).message = reason) :
    Enforces FieldFault.notice [.field (IsLong min max value) reason] (length name value min max) := by
  refine enforces_field ?_ hreason
  rw [Bool.and_eq_true, decide_eq_true_eq, decide_eq_true_eq]
  rfl

def usernameRules (value : String) : List Rule := [
  .field (IsLong 3 100 value) "username must contain from 3-100 characters",
  .field (IsUsername value) "username must contain only lowercase letters, digits, or underscore"]

def passwordRules (value : String) : List Rule := [
  .field (IsLong 6 100 value) "password must contain from 6-100 characters"]

def fullNameRules (value : String) : List Rule := [
  .field (IsLong 3 100 value) "full_name must contain from 3-100 characters",
  .field (IsFullName value) "full_name must contain only letters or spaces"]

def emailRules (value : String) : List Rule := [
  .field (IsLong 3 200 value) "email must contain from 3-200 characters",
  .field (IsAddress value.toList) "email is not a valid email address"]

def currencyRules (value : String) : List Rule := [
  .field (value ∈ ["USD", "EUR", "CAD"]) ("currency " ++ value ++ " is not supported")]

theorem username_enforces : Enforces FieldFault.notice (usernameRules value) (username value) :=
  .cons (length_enforces (by decide +kernel)) fun _ => enforces_field all_isUsernameChar rfl

theorem password_enforces : Enforces FieldFault.notice (passwordRules value) (password value) :=
  length_enforces (by decide +kernel)

theorem fullName_enforces : Enforces FieldFault.notice (fullNameRules value) (fullName value) :=
  .cons (length_enforces (by decide +kernel)) fun _ => enforces_field all_isFullNameChar rfl

theorem email_enforces : Enforces FieldFault.notice (emailRules value) (email value) :=
  .cons (length_enforces (by decide +kernel)) fun _ => enforces_field isEmail_iff rfl

theorem currency_enforces : Enforces FieldFault.notice (currencyRules value) (currency value) :=
  enforces_field List.contains_iff_mem rfl

end Field

def Registration.rules (registration : Registration) : List Rule :=
  Field.usernameRules registration.username ++ (Field.passwordRules registration.password ++
    (Field.fullNameRules registration.fullName ++ Field.emailRules registration.email))

theorem Registration.check_enforces (registration : Registration) :
    Enforces FieldFault.notice registration.rules registration.check :=
  Field.username_enforces.bind fun _ _ => Field.password_enforces.bind fun _ _ =>
    Field.fullName_enforces.bind fun _ _ => Field.email_enforces

def AccountOpening.rules (opening : AccountOpening) : List Rule :=
  Field.currencyRules opening.currency ++ [.field (0 ≤ opening.balance) "initial_balance must not be negative"]

theorem AccountOpening.check_enforces (opening : AccountOpening) :
    Enforces FieldFault.notice opening.rules opening.check :=
  Field.currency_enforces.bind fun _ _ => Field.enforces_field decide_eq_true_iff rfl

def Confirmation.rules (confirmation : Confirmation) : List Rule := [
  .field (0 < confirmation.recordId) "email_id must be a positive integer",
  .field (IsLong 32 32 confirmation.secretCode) "secret_code must contain from 32-32 characters"]

theorem Confirmation.check_enforces (confirmation : Confirmation) :
    Enforces FieldFault.notice confirmation.rules confirmation.check :=
  .cons (Field.enforces_field decide_eq_true_iff rfl) fun _ => Field.length_enforces (by decide +kernel)

namespace Payment

/-- What is told about a failure. -/
def told (failure : Failure) : Notice := (Http.Problem.failed failure).notice

def orderRules (order : TransferOrder) : List Rule := [
  .transfer (0 < order.amount) "amount must be positive",
  .transfer (order.fromAccount ≠ order.toAccount) "cannot transfer to the same account"]

theorem check_enforces (order : TransferOrder) : Enforces told (orderRules order) order.check where
  refuses hbroken := by
    cases hbroken with
    | here hbroken => exact ⟨_, if_pos (Int.not_lt.mp hbroken), rfl⟩
    | later hpositive hbroken =>
        cases hbroken with
        | here hbroken =>
            have hpositive : ¬order.amount ≤ 0 := Int.not_le.mpr hpositive
            exact ⟨_, (if_neg hpositive).trans (if_pos (not_not.mp hbroken)), rfl⟩
        | later _ hbroken => cases hbroken
  admits hkept := by
    have hpositive : 0 < order.amount := hkept _ List.mem_cons_self
    have hdistinct : order.fromAccount ≠ order.toAccount :=
      hkept _ (List.mem_cons_of_mem _ List.mem_cons_self)
    exact ⟨(), TransferOrder.check_eq_ok.mpr ⟨hpositive, hdistinct⟩⟩

def rules (payment : Payment) : List Rule := orderRules payment.order ++ Field.currencyRules payment.currency

end Payment

namespace AccountPage

variable {page : AccountPage}

/-- What is demanded of the number and of the size of a page. -/
def pageRules (number size : Int) : List Rule := [
  .field (1 ≤ number) "page_id must be at least 1",
  .field (5 ≤ size ∧ size ≤ 10) "page_size must be between 5 and 10"]

def rules (page : AccountPage) : List Rule :=
  pageRules page.number page.size ++
    [.field (page.skipped < 2 ^ 63) ("page_id " ++ Decimal.text page.number ++ " is out of range")]

theorem page_enforces (number size : Int) :
    Enforces FieldFault.notice (pageRules number size) (Field.page number size) := by
  refine .cons (Field.enforces_field decide_eq_true_iff rfl) fun _ => Field.enforces_field ?_ rfl
  rw [Bool.and_eq_true, decide_eq_true_eq, decide_eq_true_eq]

theorem not_refused_of_kept (h : ∀ rule ∈ page.rules, rule.Kept) : ¬page.Refused := by
  obtain ⟨hpage, hwindow⟩ := List.forall_mem_append.mp h
  have hnumber : 1 ≤ page.number := hpage _ List.mem_cons_self
  have hsize : 5 ≤ page.size ∧ page.size ≤ 10 := hpage _ (List.mem_cons_of_mem _ List.mem_cons_self)
  have hskipped : page.skipped < 2 ^ 63 := hwindow _ List.mem_cons_self
  rintro (hbad | hbad | hbad | hbad) <;> omega

theorem checkedWindow_enforces (page : AccountPage) :
    Enforces FieldFault.notice page.rules page.checkedWindow := by
  refine (page_enforces page.number page.size).bind fun hkept _ => ?_
  constructor
  case refuses =>
    intro rule hbroken
    cases hbroken with
    | here hbroken => exact ⟨_, window_eq_error fun hboth => hbroken hboth.2.2, rfl⟩
    | later _ hbroken => cases hbroken
  case admits =>
    intro hskipped
    have hshown : ¬page.Refused := not_refused_of_kept (List.forall_mem_append.mpr ⟨hkept, hskipped⟩)
    obtain ⟨hpages, hnonneg, hlt⟩ := bounds_of_not_refused hshown
    exact ⟨_, window_eq_ok hpages ⟨by omega, hlt⟩⟩

end AccountPage
end Passbook
