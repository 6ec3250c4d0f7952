import Passbook.Failure

/-!
# What a fault means

A fault of the storage means that nothing was found, that an identity is taken, that funds are missing or
that the operation was canceled if it has the code for this; otherwise it is kept as it is. Nothing else is
ever made of a fault.
-/
namespace Passbook

namespace StorageFault

def code? : StorageFault → Option String
  | .refused refusal => refusal.code
  | _ => none

def constraint? : StorageFault → Option String
  | .refused refusal => refusal.constraint
  | _ => none

@[simp] theorem code?_rowNotFound : rowNotFound.code? = none := rfl

@[simp] theorem code?_refused (refusal : Refusal) : (refused refusal).code? = refusal.code := rfl

@[simp] theorem constraint?_refused (refusal : Refusal) :
    (refused refusal).constraint? = refusal.constraint := rfl

/-- Whether a fault has a meaning of its own. -/
def IsKnown (fault : StorageFault) : Prop :=
  fault = .rowNotFound ∨ fault.code? = some "23503" ∨ fault.code? = some "23505" ∨
    (fault.code? = some "23514" ∧ fault.constraint? = some "accounts_balance_non_negative") ∨
    fault.code? = some "57014"

/-- Whether a failure is what a fault means. -/
def Means (fault : StorageFault) : Failure → Prop
  | .notFound => fault = .rowNotFound ∨ fault.code? = some "23503"
  | .duplicateIdentity => fault.code? = some "23505"
  | .insufficientFunds =>
      fault.code? = some "23514" ∧ fault.constraint? = some "accounts_balance_non_negative"
  | .canceledOperation => fault.code? = some "57014"
  | .storageFailure kept => kept = fault ∧ ¬fault.IsKnown
  | _ => False

theorem means_ofFault (fault : StorageFault) : fault.Means (.ofFault fault) := by
  cases fault with
  | rowNotFound => exact .inl rfl
  | refused refusal =>
      simp only [Failure.ofFault, Failure.ofRefusal?]
      split
      case h_1 hcode => exact hcode
      case h_2 hcode => exact .inr hcode
      case h_3 hcode =>
        by_cases hconstraint : refusal.constraint = some Failure.balanceConstraint
        · rw [if_pos hconstraint]
          exact ⟨hcode, hconstraint⟩
        · rw [if_neg hconstraint]
          have hother : refusal.constraint ≠ some "accounts_balance_non_negative" := hconstraint
          exact ⟨rfl, by simp [IsKnown, hcode, hother]⟩
      case h_4 hcode => exact hcode
      case h_5 hduplicate hmissing hcheck hcanceled =>
        refine ⟨rfl, ?_⟩
        rintro (h | h | h | h | h)
        · cases h
        · exact hmissing h
        · exact hduplicate h
        · exact hcheck h.1
        · exact hcanceled h
  | _ => exact ⟨rfl, by simp [IsKnown, code?]⟩

/-- A fault has one meaning. -/
theorem Means.unique {fault : StorageFault} {a b : Failure} (ha : fault.Means a) (hb : fault.Means b) :
    a = b := by
  cases a <;> cases b <;> simp_all [Means, IsKnown]

theorem means_iff {fault : StorageFault} {failure : Failure} :
    fault.Means failure ↔ failure = .ofFault fault := by
  constructor
  · exact fun h => h.unique fault.means_ofFault
  · rintro rfl
    exact fault.means_ofFault

end StorageFault
end Passbook
