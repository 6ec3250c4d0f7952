import Passbook.Instant
import Passbook.Proofs.Text.Decimal
import Passbook.Proofs.Text.Form

/-!
# Instants there and back

An instant is found again from its text. A day is counted back from its date: within an era of 400 years
the rule for years divides the days up without gaps. A text is cut at the `T`; the numbers in front of it
and behind it have two digits each, so only the year and the fraction vary in length, and these two stand
at the ends.
-/
namespace Passbook

namespace Decimal

theorem value_padded (width n : Nat) : Nat.ofDigitChars 10 (padded width n) 0 = n := by
  rw [padded, Nat.ofDigitChars_append, Nat.ofDigitChars_replicate_zero, Nat.mul_zero, value_ofNat]

theorem padded_inj {width m n : Nat} : padded width m = padded width n ↔ m = n := by
  refine ⟨fun h => ?_, fun h => by rw [h]⟩
  rw [← value_padded width m, h, value_padded]

theorem isDigit_padded (width n : Nat) : ∀ c ∈ padded width n, c.isDigit = true := by
  refine List.forall_mem_append.mpr ⟨fun c hc => ?_, isDigit_ofNat n⟩
  rw [List.eq_of_mem_replicate hc]
  rfl

theorem length_padded {width n : Nat} (hwidth : 0 < width) (h : n < Nat.pow 10 width) :
    (padded width n).length = width := by
  have hle : (ofNat n).length ≤ width := (Nat.length_toDigits_le_iff (by decide) hwidth).mpr h
  rw [padded, List.length_append, List.length_replicate]
  omega

end Decimal

namespace CivilDate

/-- The year of a day within an era of 400 years begins on this day or before it, and a leap year before it
at most. -/
theorem yearOfEra_spec {d : Nat} (h : d < 146097) :
    let y := (d - d / 1460 + d / 36524 - d / 146096) / 365
    y < 400 ∧ 365 * y + y / 4 - y / 100 ≤ d ∧ d ≤ 365 * y + y / 4 - y / 100 + 365 := by
  intro y
  -- Only the last day of an era lies outside its four centuries of 36524 days.
  rcases Nat.lt_or_ge d 146096 with hlt | hge
  case inr =>
    obtain rfl : d = 146096 := by omega
    decide
  obtain ⟨b, r, hd, hr⟩ : ∃ b r, d = 36524 * b + r ∧ r < 36524 :=
    ⟨d / 36524, d % 36524, (Nat.div_add_mod _ _).symm, Nat.mod_lt _ (by decide)⟩
  obtain ⟨q, hq⟩ : ∃ q, q = (24 * b + r) / 1460 := ⟨_, rfl⟩
  obtain ⟨z, hz⟩ : ∃ z, z = (r - q) / 365 := ⟨_, rfl⟩
  have hquarter : d / 1460 = 25 * b + q := by omega
  have hcentury : d / 36524 = b := by omega
  have hera : d / 146096 = 0 := by omega
  have hb : b < 4 := by omega
  have hz : z < 100 := by omega
  have hy : y = 100 * b + z := by omega
  have hbegun : z / 4 ≤ q := by omega
  have hlast : q ≤ z / 4 + 1 := by omega
  have hfour : (100 * b + z) / 4 = 25 * b + z / 4 := by omega
  have hhundred : (100 * b + z) / 100 = b := by omega
  rw [hy, hfour, hhundred]
  refine ⟨by omega, by omega, by omega⟩

/-- The number of days from the first of January 1970 to a date. -/
def days (date : CivilDate) : Int :=
  let year := date.year - (if date.month ≤ 2 then 1 else 0)
  let yearOfEra := (year.fmod 400).toNat
  let marchMonth := (date.month + 9) % 12
  let dayOfYear := (153 * marchMonth + 2) / 5 + date.day - 1
  146097 * year.fdiv 400 + ((365 * yearOfEra + yearOfEra / 4 - yearOfEra / 100 + dayOfYear : Nat) : Int) - 719468

/-- The date of a day by its era, its year within the era and its day within the year. -/
theorem ofDays_spec (n : Int) : ∃ (era : Int) (yearOfEra dayOfYear marchMonth : Nat),
    yearOfEra < 400 ∧ dayOfYear ≤ 365 ∧ (5 * dayOfYear + 2) / 153 = marchMonth ∧
      n + 719468 = 146097 * era + ((365 * yearOfEra + yearOfEra / 4 - yearOfEra / 100 + dayOfYear : Nat) : Int) ∧
      let month := if marchMonth < 10 then marchMonth + 3 else marchMonth - 9
      ofDays n = ⟨yearOfEra + era * 400 + (if month ≤ 2 then 1 else 0), month,
        dayOfYear - (153 * marchMonth + 2) / 5 + 1⟩ := by
  obtain ⟨d, hd⟩ : ∃ d, ((n + 719468).fmod 146097).toNat = d := ⟨_, rfl⟩
  have hsum : n + 719468 = 146097 * (n + 719468).fdiv 146097 + d ∧ d < 146097 := by
    rw [Int.fmod_eq_emod_of_nonneg _ (by decide)] at hd
    rw [Int.fdiv_eq_ediv_of_nonneg _ (by decide)]
    omega
  obtain ⟨hyear, hbegun, hlast⟩ := yearOfEra_spec hsum.2
  refine ⟨(n + 719468).fdiv 146097, _, _, _, hyear, ?_, rfl, ?_, by rw [ofDays, hd]⟩
  · omega
  · rw [Nat.add_sub_cancel' hbegun]
    exact hsum.1

/-- A day is found again from its date. -/
theorem days_ofDays (n : Int) : (ofDays n).days = n := by
  obtain ⟨era, y, doy, march, hy, hdoy, hmarch, hsum, hdate⟩ := ofDays_spec n
  have hmonth : ((if march < 10 then march + 3 else march - 9) + 9) % 12 = march := by split <;> omega
  have hyear : ((y : Int) + era * 400).fdiv 400 = era ∧ (((y : Int) + era * 400).fmod 400).toNat = y := by
    rw [Int.fdiv_eq_ediv_of_nonneg _ (by decide), Int.fmod_eq_emod_of_nonneg _ (by decide)]
    omega
  simp only [hdate, days, hmonth, Int.add_sub_cancel, hyear]
  omega

theorem ofDays_injective : Function.Injective ofDays := fun m n h => by
  rw [← days_ofDays m, h, days_ofDays]

theorem month_le (n : Int) : (ofDays n).month ≤ 12 := by
  obtain ⟨era, y, doy, march, -, hdoy, hmarch, -, hdate⟩ := ofDays_spec n
  simp only [hdate]
  split <;> omega

theorem day_le (n : Int) : (ofDays n).day ≤ 31 := by
  obtain ⟨era, y, doy, march, -, hdoy, hmarch, -, hdate⟩ := ofDays_spec n
  simp only [hdate]
  omega

def yearOf : List Char → Int
  | '-' :: digits => -(Nat.ofDigitChars 10 digits 0 : Int)
  | '+' :: digits => Nat.ofDigitChars 10 digits 0
  | digits => Nat.ofDigitChars 10 digits 0

theorem yearOf_digits {digits : List Char} (h : ∀ c ∈ digits, c.isDigit = true) :
    yearOf digits = Nat.ofDigitChars 10 digits 0 := by
  unfold yearOf
  split
  · cases h '-' List.mem_cons_self
  · cases h '+' List.mem_cons_self
  · rfl

theorem yearOf_yearText (year : Int) : yearOf (yearText year) = year := by
  unfold yearText
  split
  · rw [yearOf, Decimal.value_padded]
    omega
  · split
    · rw [yearOf_digits (Decimal.isDigit_padded _ _), Decimal.value_padded]
      omega
    · rw [yearOf, Decimal.value_ofNat]
      omega

theorem yearText_injective : Function.Injective yearText := fun m n h => by
  rw [← yearOf_yearText m, h, yearOf_yearText]

theorem chars_inj {date date' : CivilDate} (hmonth : date.month < 100) (hmonth' : date'.month < 100)
    (hday : date.day < 100) (hday' : date'.day < 100) (h : date.chars = date'.chars) : date = date' := by
  obtain ⟨year, month, day⟩ := date
  obtain ⟨year', month', day'⟩ := date'
  have htwo {n : Nat} (hn : n < 100) : (Decimal.padded 2 n).length = 2 := Decimal.length_padded (by decide) hn
  simp only [chars, List.append_assoc, List.cons_append] at h
  -- Everything behind the year has the same length in both texts.
  obtain ⟨hyear, h⟩ := List.append_inj' h (by simp [htwo hmonth, htwo hmonth', htwo hday, htwo hday'])
  obtain ⟨hmonths, h⟩ := List.append_inj (List.cons.inj h).2 (by rw [htwo hmonth, htwo hmonth'])
  rw [yearText_injective hyear, Decimal.padded_inj.mp hmonths, Decimal.padded_inj.mp (List.cons.inj h).2]

theorem letter_not_mem (date : CivilDate) : 'T' ∉ date.chars := by
  have hdigits (width n : Nat) : 'T' ∉ Decimal.padded width n := fun h => nomatch Decimal.isDigit_padded _ _ _ h
  have hyear : 'T' ∉ yearText date.year := by
    have hplain (n : Nat) : 'T' ∉ Decimal.ofNat n := fun h => nomatch Decimal.isDigit_ofNat _ _ h
    unfold yearText
    split
    · simp [hdigits]
    · split
      · exact hdigits _ _
      · simp [hplain]
  simp [chars, hdigits, hyear]

end CivilDate

namespace Instant

def fractionOf : List Char → Nat
  | '.' :: digits => (if digits.length = 3 then 1000 else 1) * Nat.ofDigitChars 10 digits 0
  | _ => 0

theorem fractionOf_fractionText {n : Nat} (h : n < 1000000) : fractionOf (fractionText n) = n := by
  have hmillis : n / 1000 < 1000 := by omega
  have hthree : (Decimal.padded 3 (n / 1000)).length = 3 := Decimal.length_padded (by decide) hmillis
  have hsix : (Decimal.padded 6 n).length = 6 := Decimal.length_padded (by decide) h
  unfold fractionText
  split
  · next hzero =>
    rw [hzero]
    rfl
  · split
    · rw [fractionOf, hthree, Decimal.value_padded, if_pos rfl]
      omega
    · rw [fractionOf, hsix, Decimal.value_padded, if_neg (by decide), Nat.one_mul]

/-- The time of day that lies some microseconds behind midnight. -/
def clock (micros : Nat) : List Char :=
  let seconds := micros / 1000000
  Decimal.padded 2 (seconds / 3600) ++ ':' :: (Decimal.padded 2 (seconds / 60 % 60) ++ ':' ::
    (Decimal.padded 2 (seconds % 60) ++ (fractionText (micros % 1000000) ++ ['Z'])))

theorem clock_inj {m n : Nat} (hm : m < 86400000000) (hn : n < 86400000000) (h : clock m = clock n) :
    m = n := by
  have htwo {k : Nat} (hk : k < 100) : (Decimal.padded 2 k).length = 2 := Decimal.length_padded (by decide) hk
  simp only [clock] at h
  obtain ⟨hhours, h⟩ := List.append_inj h (by rw [htwo (by omega), htwo (by omega)])
  obtain ⟨hminutes, h⟩ := List.append_inj (List.cons.inj h).2 (by rw [htwo (by omega), htwo (by omega)])
  obtain ⟨hseconds, h⟩ := List.append_inj (List.cons.inj h).2 (by rw [htwo (by omega), htwo (by omega)])
  have hfraction := congrArg fractionOf (List.append_cancel_right h)
  rw [fractionOf_fractionText (by omega), fractionOf_fractionText (by omega)] at hfraction
  rw [Decimal.padded_inj] at hhours hminutes hseconds
  omega

theorem chars_eq (t : Instant) : t.chars = (CivilDate.ofDays (t.micros.fdiv microsPerDay)).chars ++
    'T' :: clock (t.micros.fmod microsPerDay).toNat := by
  simp [chars, clock]

/-- An instant is found again from its text, however far it lies from 1970. -/
theorem chars_injective : Function.Injective chars := by
  intro s t h
  rw [chars_eq, chars_eq] at h
  have hsplit := congrArg (Split.first 'T') h
  rw [Split.first_append (CivilDate.letter_not_mem _), Split.first_append (CivilDate.letter_not_mem _),
    Prod.mk.injEq] at hsplit
  obtain ⟨hdates, hclocks⟩ := hsplit
  have hmonth (n : Int) : (CivilDate.ofDays n).month < 100 :=
    Nat.lt_of_le_of_lt (CivilDate.month_le n) (by decide)
  have hday (n : Int) : (CivilDate.ofDays n).day < 100 := Nat.lt_of_le_of_lt (CivilDate.day_le n) (by decide)
  have hdays := CivilDate.ofDays_injective (CivilDate.chars_inj (hmonth _) (hmonth _) (hday _) (hday _) hdates)
  have hmicros (u : Instant) : u.micros = microsPerDay * u.micros.fdiv microsPerDay +
      (u.micros.fmod microsPerDay).toNat ∧ (u.micros.fmod microsPerDay).toNat < 86400000000 := by
    rw [Int.fmod_eq_emod_of_nonneg _ (by decide), Int.fdiv_eq_ediv_of_nonneg _ (by decide), microsPerDay]
    omega
  have hclock := clock_inj (hmicros s).2 (hmicros t).2 hclocks
  have heq : s.micros = t.micros := by rw [(hmicros s).1, (hmicros t).1, hdays, hclock]
  exact congrArg Instant.mk heq

theorem text_inj {s t : Instant} : s.text = t.text ↔ s = t :=
  ⟨fun h => chars_injective (String.ofList_injective h), fun h => h ▸ rfl⟩

end Instant
end Passbook
