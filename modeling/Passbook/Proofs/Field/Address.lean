import Passbook.Proofs.Field.Rules

/-!
# The shape of an email address

An address is told by its characters: one `@` with something in front of it, behind it a domain with a dot
inside and none at either end, and no white space anywhere. How the domain is cut into labels does not
matter: with a dot inside and none at its ends it has two labels at least that are not empty, and empty
labels between them are admitted. The number of characters is demanded first, so an address that has too few
or too many of them is refused for this alone.
-/
namespace Passbook

/-- The characters with the property White_Space. -/
def Unicode.IsWhiteSpace (c : Char) : Prop :=
  c.toNat ∈ [0x9, 0xa, 0xb, 0xc, 0xd, 0x20, 0x85, 0xa0, 0x1680, 0x2028, 0x2029, 0x202f, 0x205f, 0x3000] ∨
    0x2000 ≤ c.toNat ∧ c.toNat ≤ 0x200a

theorem Unicode.isBlank_iff {c : Char} : isBlank c = true ↔ IsWhiteSpace c := by
  simp only [isBlank, RangeTable.holds, blankTable, IsWhiteSpace, List.any_cons, List.any_nil,
    Bool.or_false, Bool.or_eq_true, Bool.and_eq_true, decide_eq_true_eq, List.mem_cons, List.not_mem_nil,
    or_false]
  omega

theorem Split.all_eq_splitOn {α : Type} [DecidableEq α] (mark : α) (s : List α) :
    all mark s = s.splitOn mark := by
  induction s with
  | nil => rfl
  | cons a rest ih =>
      rw [List.splitOn, List.splitOnP_cons_eq_if_modifyHead, ← List.splitOn, ← ih]
      by_cases ha : a = mark
      · rw [all, if_pos ha, if_pos (beq_iff_eq.mpr ha)]
      · rw [all, if_neg ha, if_neg (mt beq_iff_eq.mp ha)]
        cases hrest : all mark rest with
        | nil => exact absurd hrest (all_ne_nil mark rest)
        | cons piece pieces => rfl

/-- The shape of an address. The mark is there once, so there is one front and one domain. -/
structure AddressShape (value : List Char) : Prop where
  oneMark : value.count '@' = 1
  visible : ∀ c ∈ value, ¬Unicode.IsWhiteSpace c
  parts : ∀ front domain, value = front ++ '@' :: domain →
    front ≠ [] ∧ '.' ∈ domain ∧ ¬['.'] <+: domain ∧ ¬['.'] <:+ domain

namespace AddressShape

variable {value front domain : List Char}

theorem singleton_prefix_iff {c : Char} {s : List Char} : [c] <+: s ↔ s.head? = some c := by
  cases s with
  | nil => simp
  | cons d rest => simp [List.cons_prefix_cons, eq_comm]

theorem singleton_suffix_iff {c : Char} {s : List Char} : [c] <:+ s ↔ s.getLast? = some c := by
  rw [← List.reverse_prefix, List.reverse_singleton, singleton_prefix_iff, List.head?_reverse]

/-- A mark that stands once stands neither in front of itself nor behind itself. -/
theorem count_eq_one_iff : (front ++ '@' :: domain).count '@' = 1 ↔ '@' ∉ front ∧ '@' ∉ domain := by
  rw [List.count_append, List.count_cons_self, ← List.count_eq_zero, ← List.count_eq_zero]
  omega

theorem iff_isAddress : AddressShape value ↔ IsAddress value := by
  have hvisible : (∀ c ∈ value, ¬Unicode.IsWhiteSpace c) ↔ ∀ c ∈ value, Unicode.isBlank c = false := by
    simp only [← Unicode.isBlank_iff, Bool.not_eq_true]
  constructor
  case mp =>
    intro h
    have hmark : '@' ∈ value := List.count_pos_iff.mp (by rw [h.oneMark]; exact Nat.one_pos)
    obtain ⟨hvalue, -⟩ := Split.first_spec hmark
    have hone := h.oneMark
    rw [hvalue, count_eq_one_iff] at hone
    obtain ⟨hfront, hdot, hhead, hlast⟩ := h.parts _ _ hvalue
    rw [singleton_prefix_iff] at hhead
    rw [singleton_suffix_iff] at hlast
    exact ⟨⟨_, _, hvalue, hfront, hone.1, hone.2, hdot, hhead, hlast⟩, hvisible.mp h.visible⟩
  case mpr =>
    rintro ⟨⟨front, domain, rfl, hfront, hbefore, hbehind, hdot, hhead, hlast⟩, hblank⟩
    refine ⟨count_eq_one_iff.mpr ⟨hbefore, hbehind⟩, hvisible.mpr hblank, fun front' domain' heq => ?_⟩
    -- There is no other mark to cut at.
    have hone : (front' ++ '@' :: domain').count '@' = 1 := by
      rw [← heq]
      exact count_eq_one_iff.mpr ⟨hbefore, hbehind⟩
    have hsame : (front, domain) = (front', domain') := by
      rw [← Split.first_append hbefore domain, heq]
      exact Split.first_append (count_eq_one_iff.mp hone).1 domain'
    cases hsame
    rw [singleton_prefix_iff, singleton_suffix_iff]
    exact ⟨hfront, hdot, hhead, hlast⟩

theorem two_le_labels (h : AddressShape (front ++ '@' :: domain)) :
    2 ≤ (domain.splitOn '.').countP (fun label => !label.isEmpty) := by
  obtain ⟨-, hdot, hhead, hlast⟩ := h.parts front domain rfl
  rw [singleton_prefix_iff] at hhead
  rw [singleton_suffix_iff] at hlast
  rw [← Split.all_eq_splitOn, List.countP_eq_length_filter]
  exact (Field.two_labels hhead hlast).mpr hdot

end AddressShape

namespace Field

theorem message_of_notice {fault : FieldFault} {kept : Prop} {reason : String}
    (h : fault.notice = (Rule.field kept reason).notice) : fault.message = reason :=
  congrArg Http.Notice.message h

/-- The three ways in which the test of an address may end. -/
theorem email_cases (value : String) :
    (IsLong 3 200 value ∧ AddressShape value.toList) ∧ email value = .ok () ∨
    (IsLong 3 200 value ∧ ¬AddressShape value.toList) ∧
      (∃ fault, email value = .error fault ∧ fault.message = "email is not a valid email address") ∨
    ¬IsLong 3 200 value ∧
      ∃ fault, email value = .error fault ∧ fault.message = "email must contain from 3-200 characters" := by
  have hrules : Rule.Enforces FieldFault.notice (emailRules value) (email value) := email_enforces
  rw [AddressShape.iff_isAddress]
  by_cases hlong : IsLong 3 200 value
  case neg =>
    obtain ⟨fault, hfault, hnotice⟩ := hrules.refuses (.here hlong)
    exact .inr (.inr ⟨hlong, fault, hfault, message_of_notice hnotice⟩)
  case pos =>
    by_cases hshape : IsAddress value.toList
    case neg =>
      obtain ⟨fault, hfault, hnotice⟩ := hrules.refuses (.later hlong (.here hshape))
      exact .inr (.inl ⟨⟨hlong, hshape⟩, fault, hfault, message_of_notice hnotice⟩)
    case pos =>
      have hkept : ∀ rule ∈ emailRules value, rule.Kept :=
        List.forall_mem_cons.mpr ⟨hlong, List.forall_mem_singleton.mpr hshape⟩
      obtain ⟨_, hok⟩ := hrules.admits hkept
      exact .inl ⟨⟨hlong, hshape⟩, hok⟩

/-- An address is admitted if and only if it has from 3 to 200 characters and the shape of an address, and
then its domain has two labels at least that are not empty. Otherwise it is refused for its length if that
is wrong, and for its shape if the length is right. -/
theorem email_decides (value : String) :
    (email value = .ok () ↔ IsLong 3 200 value ∧ AddressShape value.toList) ∧
      ((∃ fault, email value = .error fault ∧ fault.message = "email must contain from 3-200 characters") ↔
        ¬IsLong 3 200 value) ∧
      ((∃ fault, email value = .error fault ∧ fault.message = "email is not a valid email address") ↔
        IsLong 3 200 value ∧ ¬AddressShape value.toList) ∧
      ∀ front domain, value.toList = front ++ '@' :: domain → email value = .ok () →
        2 ≤ (domain.splitOn '.').countP (fun label => !label.isEmpty) := by
  have hok : ∀ {message}, email value = .ok () →
      ¬∃ fault, email value = .error fault ∧ fault.message = message := by
    rintro message hok ⟨fault, hfault, -⟩
    cases hok.symm.trans hfault
  have hone : ∀ {fault message}, email value = .error fault → fault.message = message →
      ∀ {other}, message ≠ other → ¬∃ fault, email value = .error fault ∧ fault.message = other := by
    rintro fault message hfault hmessage other hne ⟨fault', hfault', hother⟩
    cases hfault.symm.trans hfault'
    exact hne (hmessage.symm.trans hother)
  rcases email_cases value with ⟨hkept, hresult⟩ | ⟨hbroken, fault, hfault, hmessage⟩ |
    ⟨hbroken, fault, hfault, hmessage⟩
  · refine ⟨iff_of_true hresult hkept, ?_, ?_, fun front domain heq _ => ?_⟩
    · exact iff_of_false (hok hresult) (not_not.mpr hkept.1)
    · exact iff_of_false (hok hresult) fun h => h.2 hkept.2
    · exact AddressShape.two_le_labels (heq ▸ hkept.2)
  · have hne : email value ≠ .ok () := fun h => nomatch hfault.symm.trans h
    refine ⟨iff_of_false hne fun h => hbroken.2 h.2, ?_, ?_, fun _ _ _ h => absurd h hne⟩
    · exact iff_of_false (hone hfault hmessage (by decide)) (not_not.mpr hbroken.1)
    · exact iff_of_true ⟨fault, hfault, hmessage⟩ hbroken
  · have hne : email value ≠ .ok () := fun h => nomatch hfault.symm.trans h
    refine ⟨iff_of_false hne fun h => hbroken h.1, ?_, ?_, fun _ _ _ h => absurd h hne⟩
    · exact iff_of_true ⟨fault, hfault, hmessage⟩ hbroken
    · exact iff_of_false (hone hfault hmessage (by decide)) fun h => hbroken h.1

/-- A label in the middle may be empty. -/
example : email "alice@bank..example" = .ok () := by decide +kernel

end Field
end Passbook
