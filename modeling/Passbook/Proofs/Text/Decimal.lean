import Passbook.Text.Decimal

/-!
# Decimals there and back

An integer that lies in a range is read as itself from its decimal digits: no number on the way exceeds
the one that is read. What is read from digits without needless zeros in front has these very digits. Where there
are no negative numbers, the texts that are read are those that denote a number of the range.
-/
namespace Passbook.Decimal

theorem ofNat_eq_cons (n : Nat) : ∃ c rest, ofNat n = c :: rest ∧ c.isDigit = true := by
  obtain ⟨c, rest, hdigits⟩ := List.exists_cons_of_ne_nil (Nat.toDigits_ne_nil (b := 10) (n := n))
  exact ⟨c, rest, hdigits,
    Nat.isDigit_of_mem_toDigits (by decide) (by decide) (hdigits ▸ List.mem_cons_self)⟩

theorem digit?_of_isDigit {c : Char} (h : c.isDigit = true) : digit? c = some (c.toNat - '0'.toNat) := by
  simp only [Char.isDigit, Bool.and_eq_true, decide_eq_true_eq] at h
  exact if_pos ⟨h.1, h.2⟩

theorem le_ofDigitChars (digits : List Char) (value : Nat) : value ≤ Nat.ofDigitChars 10 digits value := by
  induction digits generalizing value with
  | nil => exact Nat.le_refl _
  | cons c rest ih =>
      have := ih (10 * value + (c.toNat - '0'.toNat))
      rw [Nat.ofDigitChars_cons]
      omega

theorem readUp_eq_ok {high : Int} {digits : List Char} (hdigits : ∀ c ∈ digits, c.isDigit = true)
    {value : Nat} (hhigh : (Nat.ofDigitChars 10 digits value : Int) ≤ high) :
    readUp high value digits = .ok (Nat.ofDigitChars 10 digits value : Int) := by
  induction digits generalizing value with
  | nil => rfl
  | cons c rest ih =>
      rw [List.forall_mem_cons] at hdigits
      have hle := le_ofDigitChars rest (10 * value + (c.toNat - '0'.toNat))
      rw [Nat.ofDigitChars_cons] at hhigh ⊢
      have hnext : (value : Int) * 10 + (c.toNat - '0'.toNat : Nat) =
        (10 * value + (c.toNat - '0'.toNat) : Nat) := by omega
      simp only [readUp, digit?_of_isDigit hdigits.1, hnext]
      rw [if_pos (by omega)]
      exact ih hdigits.2 hhigh

theorem readDown_eq_ok {low : Int} {digits : List Char} (hdigits : ∀ c ∈ digits, c.isDigit = true)
    {value : Nat} (hlow : low ≤ -(Nat.ofDigitChars 10 digits value : Int)) :
    readDown low (-value) digits = .ok (-(Nat.ofDigitChars 10 digits value : Int)) := by
  induction digits generalizing value with
  | nil => rfl
  | cons c rest ih =>
      rw [List.forall_mem_cons] at hdigits
      have hle := le_ofDigitChars rest (10 * value + (c.toNat - '0'.toNat))
      rw [Nat.ofDigitChars_cons] at hlow ⊢
      have hnext : -(value : Int) * 10 - (c.toNat - '0'.toNat : Nat) =
        -(10 * value + (c.toNat - '0'.toNat) : Nat) := by omega
      simp only [readDown, digit?_of_isDigit hdigits.1, hnext]
      rw [if_pos (by omega)]
      exact ih hdigits.2 hlow

theorem isDigit_ofNat (n : Nat) : ∀ c ∈ ofNat n, c.isDigit = true := fun _ hc =>
  Nat.isDigit_of_mem_toDigits (by decide) (by decide) hc

theorem value_ofNat (n : Nat) : Nat.ofDigitChars 10 (ofNat n) 0 = n :=
  Nat.ofDigitChars_toDigits (by decide) (by decide)

/-- A digit is no sign, so digits are read as they stand. -/
theorem read_digits (range : IntegerRange) {digits : List Char} (hdigits : ∀ c ∈ digits, c.isDigit = true)
    (hne : digits ≠ []) : read range digits = readUp range.high 0 digits := by
  cases digits with
  | nil => exact absurd rfl hne
  | cons c rest =>
      have hc : c.isDigit = true := (List.forall_mem_cons.mp hdigits).1
      have hplus : c ≠ '+' := fun heq => by subst heq; cases hc
      have hminus : c ≠ '-' := fun heq => by subst heq; cases hc
      unfold read
      split
      · next heq => cases heq
      · next heq => exact absurd (List.cons.inj heq).1 hplus
      · next heq => exact absurd (List.cons.inj heq).1 hminus
      · next heq => exact absurd (List.cons.inj heq).1 hplus
      · next heq => exact absurd (List.cons.inj heq).1 hminus
      · rfl

theorem read_ofInt {range : IntegerRange} {n : Int} (h : range.holds n = true) :
    read range (ofInt n) = .ok n := by
  simp only [IntegerRange.holds, Bool.and_eq_true, decide_eq_true_eq] at h
  obtain ⟨hlow, hhigh⟩ := h
  cases n with
  | ofNat n =>
      have hread : (n : Int) ≤ range.high → readUp range.high 0 (ofNat n) = .ok (n : Int) := by
        have h := @readUp_eq_ok range.high _ (isDigit_ofNat n) 0
        rwa [value_ofNat] at h
      rw [ofInt, read_digits range (isDigit_ofNat n) Nat.toDigits_ne_nil]
      exact hread hhigh
  | negSucc n =>
      have hread : range.low ≤ -((n + 1 : Nat) : Int) →
          readDown range.low 0 (ofNat (n + 1)) = .ok (-((n + 1 : Nat) : Int)) := by
        have h := @readDown_eq_ok range.low _ (isDigit_ofNat (n + 1)) 0
        rwa [value_ofNat] at h
      obtain ⟨c, rest, hdigits, -⟩ := ofNat_eq_cons (n + 1)
      rw [ofInt, hdigits]
      rw [hdigits] at hread
      have hnegative : range.low < 0 := Int.lt_of_le_of_lt hlow (Int.negSucc_lt_zero n)
      simp only [read, if_pos hnegative]
      exact hread hlow

theorem ofNat_eq_cons_of_pos {n : Nat} (h : 0 < n) :
    ∃ c rest, ofNat n = c :: rest ∧ c ≠ '0' := by
  induction n using Nat.strongRecOn with
  | ind n ih =>
      by_cases hlt : n < 10
      case pos =>
        refine ⟨n.digitChar, [], Nat.toDigits_of_lt_base hlt, ?_⟩
        have hall : ∀ n < 10, 0 < n → n.digitChar ≠ '0' := by decide
        exact hall n hlt h
      case neg =>
        obtain ⟨c, rest, hdigits, hc⟩ := ih (n / 10) (by omega) (by omega)
        refine ⟨c, rest ++ [(n % 10).digitChar], ?_, hc⟩
        have hsplit : ofNat n = ofNat (n / 10) ++ [(n % 10).digitChar] :=
          Nat.toDigits_of_base_le (by decide) (by omega)
        rw [hsplit, hdigits, List.cons_append]

theorem digitChar_of_isDigit {c : Char} (h : c.isDigit = true) :
    c.toNat - '0'.toNat < 10 ∧ Nat.digitChar (c.toNat - '0'.toNat) = c := by
  have hall : ∀ d < 10, Nat.digitChar d = Char.ofNat (48 + d) := by decide
  simp only [Char.isDigit, Bool.and_eq_true, decide_eq_true_eq] at h
  have hlow : 48 ≤ c.toNat := UInt32.le_iff_toNat_le.mp h.1
  have hhigh : c.toNat ≤ 57 := UInt32.le_iff_toNat_le.mp h.2
  have hsum : 48 + (c.toNat - 48) = c.toNat := by omega
  refine ⟨show c.toNat - 48 < 10 by omega, ?_⟩
  rw [show '0'.toNat = 48 from rfl, hall _ (by omega), hsum, Char.ofNat_toNat]

/-- Digits behind a number that is not zero are digits of the number that they continue. -/
theorem ofNat_ofDigitChars {digits : List Char} (hdigits : ∀ c ∈ digits, c.isDigit = true) {value : Nat}
    (hvalue : 0 < value) : ofNat (Nat.ofDigitChars 10 digits value) = ofNat value ++ digits := by
  induction digits generalizing value with
  | nil => rw [Nat.ofDigitChars_nil, List.append_nil]
  | cons c rest ih =>
      obtain ⟨hc, hrest⟩ := List.forall_mem_cons.mp hdigits
      obtain ⟨hd, hchar⟩ := digitChar_of_isDigit hc
      rw [Nat.ofDigitChars_cons, ih hrest (by omega), ofNat,
        ← Nat.toDigits_append_toDigits (by decide) hvalue hd, Nat.toDigits_of_lt_base hd, hchar, List.append_assoc]
      rfl

/-- Digits without needless zeros in front are those of their value. -/
theorem ofNat_value {digits : List Char} (hdigits : ∀ c ∈ digits, c.isDigit = true) (hne : digits ≠ [])
    (hzero : digits.head? = some '0' → digits.length = 1) : ofNat (Nat.ofDigitChars 10 digits 0) = digits := by
  cases digits with
  | nil => exact absurd rfl hne
  | cons c rest =>
      obtain ⟨hc, hrest⟩ := List.forall_mem_cons.mp hdigits
      obtain ⟨hd, hchar⟩ := digitChar_of_isDigit hc
      rw [Nat.ofDigitChars_cons, Nat.mul_zero, Nat.zero_add]
      by_cases hvalue : 0 < c.toNat - '0'.toNat
      case pos =>
        rw [ofNat_ofDigitChars hrest hvalue, ofNat, Nat.toDigits_of_lt_base hd, hchar]
        rfl
      case neg =>
        have hvalue : c.toNat - '0'.toNat = 0 := by omega
        rw [hvalue] at hchar ⊢
        obtain rfl : '0' = c := hchar
        obtain rfl : rest = [] := List.length_eq_zero_iff.mp (Nat.succ.inj (hzero rfl))
        rfl

/-- What is read upwards is the value of the digits, and it is not above the limit. -/
theorem eq_of_readUp {high n : Int} {digits : List Char} {value : Nat} (hvalue : (value : Int) ≤ high)
    (h : readUp high value digits = .ok n) :
    (∀ c ∈ digits, c.isDigit = true) ∧ n = (Nat.ofDigitChars 10 digits value : Int) ∧ n ≤ high := by
  induction digits generalizing value with
  | nil =>
      cases h
      exact ⟨List.forall_mem_nil _, rfl, hvalue⟩
  | cons c rest ih =>
      rw [readUp] at h
      split at h
      · cases h
      · next d hd =>
        have hc : c.isDigit = true := by
          rw [digit?] at hd
          split at hd
          · next hrange =>
            simp only [Char.isDigit, Bool.and_eq_true, decide_eq_true_eq]
            exact ⟨hrange.1, hrange.2⟩
          · cases hd
        rw [digit?_of_isDigit hc, Option.some.injEq] at hd
        dsimp only at h
        split at h
        · next hle =>
          have hnext : (value : Int) * 10 + (d : Int) = (10 * value + (c.toNat - '0'.toNat) : Nat) := by omega
          rw [hnext] at h hle
          obtain ⟨hrest, hn, hhigh⟩ := ih hle h
          exact ⟨List.forall_mem_cons.mpr ⟨hc, hrest⟩, by rw [hn, Nat.ofDigitChars_cons], hhigh⟩
        · cases h

/-- Whether a text denotes a natural number: by its digits, one at least, alone or behind a plus sign. -/
def Denotes (text : List Char) (n : Nat) : Prop :=
  ∃ digits, digits ≠ [] ∧ (∀ c ∈ digits, c.isDigit = true) ∧ (text = digits ∨ text = '+' :: digits) ∧
    Nat.ofDigitChars 10 digits 0 = n

/-- In a range without negative numbers, what is read is what the text denotes, if that is in the range. -/
theorem read_eq_ok_iff {range : IntegerRange} (hlow : range.low = 0) (hhigh : 0 ≤ range.high)
    {text : List Char} {i : Int} :
    read range text = .ok i ↔ ∃ n : Nat, Denotes text n ∧ (n : Int) ≤ range.high ∧ i = n := by
  constructor
  case mp =>
    intro h
    unfold read at h
    split at h
    · cases h
    · cases h
    · cases h
    · next _ rest hsign =>
      obtain ⟨hdigits, rfl, hle⟩ := @eq_of_readUp range.high i rest 0 hhigh h
      exact ⟨_, ⟨rest, fun hnil => hsign hnil, hdigits, .inr rfl, rfl⟩, hle, rfl⟩
    · rw [hlow, if_neg (Int.lt_irrefl 0)] at h
      cases h
    · next hempty _ _ _ _ =>
      obtain ⟨hdigits, rfl, hle⟩ := @eq_of_readUp range.high i text 0 hhigh h
      exact ⟨_, ⟨text, fun hnil => hempty hnil, hdigits, .inl rfl, rfl⟩, hle, rfl⟩
  case mpr =>
    rintro ⟨_, ⟨digits, hne, hdigits, htext, rfl⟩, hle, rfl⟩
    have hread : readUp range.high 0 digits = .ok (Nat.ofDigitChars 10 digits 0 : Int) :=
      @readUp_eq_ok range.high digits hdigits 0 hle
    rcases htext with rfl | rfl
    · rw [read_digits range hdigits hne, hread]
    · obtain ⟨c, rest, rfl⟩ := List.exists_cons_of_ne_nil hne
      exact hread

end Passbook.Decimal
