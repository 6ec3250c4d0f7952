import Passbook.Proofs.Text.Utf8
import Passbook.Text.Base64

/-!
# Base64 there and back

What is written in base64 is read as the bytes that were written, and nothing else is read. Three bytes
have four letters, and all letters belong to the alphabet.
-/
namespace Passbook.Base64

theorem value?_letter : ∀ n < 64, value? (letter n) = some n := by
  decide +kernel

/-- Whether a character belongs to the alphabet. -/
def IsLetter (c : Char) : Prop := c.isAlphanum = true ∨ c = '/' ∨ c = '+'

instance : DecidablePred IsLetter := fun _ => inferInstanceAs (Decidable (_ ∨ _))

theorem isLetter_letter : ∀ n < 64, IsLetter (letter n) := by
  decide +kernel

theorem ofNat_toNat_of_eq {n : Nat} {b : UInt8} (h : n = b.toNat) : UInt8.ofNat n = b := by
  rw [h, UInt8.ofNat_toNat]

@[simp] theorem decode?_encode (bytes : List UInt8) : decode? (encode bytes) = some bytes := by
  induction bytes using encode.induct with
  | case1 => rfl
  | case2 a =>
      have ha := a.toNat_lt
      simp only [encode, decode?, value?_letter _ (show a.toNat / 4 < 64 by omega),
        value?_letter _ (show a.toNat % 4 * 16 < 64 by omega), Option.bind_eq_bind, Option.bind_some]
      rw [if_pos (by omega), ofNat_toNat_of_eq (b := a) (by omega)]
  | case3 a b =>
      have ha := a.toNat_lt
      have hb := b.toNat_lt
      simp only [encode, decode?, value?_letter _ (show a.toNat / 4 < 64 by omega),
        value?_letter _ (show a.toNat % 4 * 16 + b.toNat / 16 < 64 by omega),
        value?_letter _ (show b.toNat % 16 * 4 < 64 by omega), Option.bind_eq_bind, Option.bind_some]
      rw [if_pos (by omega), ofNat_toNat_of_eq (b := a) (by omega), ofNat_toNat_of_eq (b := b) (by omega)]
  | case4 a b c rest ih =>
      have ha := a.toNat_lt
      have hb := b.toNat_lt
      have hc := c.toNat_lt
      simp only [encode, decode?, value?_letter _ (show a.toNat / 4 < 64 by omega),
        value?_letter _ (show a.toNat % 4 * 16 + b.toNat / 16 < 64 by omega),
        value?_letter _ (show b.toNat % 16 * 4 + c.toNat / 64 < 64 by omega),
        value?_letter _ (show c.toNat % 64 < 64 by omega), ih, Option.bind_eq_bind, Option.bind_some]
      rw [ofNat_toNat_of_eq (b := a) (by omega), ofNat_toNat_of_eq (b := b) (by omega),
        ofNat_toNat_of_eq (b := c) (by omega)]
      rfl

theorem value?_eq_some {c : Char} {n : Nat} (h : value? c = some n) : n < 64 ∧ letter n = c := by
  have hall : ∀ code < 128, ∀ n ∈ value? (Char.ofNat code), n < 64 ∧ letter n = Char.ofNat code := by
    decide +kernel
  have hascii : c.toNat < 128 := by
    refine Nat.lt_of_not_le fun hlarge => ?_
    have hle (d : Char) (hd : d.toNat < 128) : ¬c ≤ d := fun hcd =>
      Nat.not_le_of_lt (Nat.lt_of_le_of_lt (UInt32.le_iff_toNat_le.mp (Char.le_def.mp hcd)) hd) hlarge
    have hne (d : Char) (hd : d.toNat < 128) : c ≠ d := fun heq => hle d hd (heq ▸ Char.le_refl _)
    rw [value?, if_neg fun h => hle 'Z' (by decide) h.2, if_neg fun h => hle 'z' (by decide) h.2,
      if_neg fun h => hle '9' (by decide) h.2, if_neg (hne '+' (by decide)), if_neg (hne '/' (by decide))] at h
    cases h
  have hvalue := hall c.toNat hascii n
  rw [Char.ofNat_toNat] at hvalue
  exact hvalue h

/-- Whatever is read is written as it was read: no bits are left over behind the last byte. -/
theorem encode_of_decode? {s : List Char} {bytes : List UInt8} (h : decode? s = some bytes) :
    encode bytes = s := by
  induction s using decode?.induct generalizing bytes with
  | case1 =>
      cases h
      rfl
  | case2 w => cases h
  | case3 w x =>
      simp only [decode?, Option.bind_eq_bind, Option.bind_eq_some_iff] at h
      obtain ⟨w', hw, x', hx, h⟩ := h
      obtain ⟨hw', rfl⟩ := value?_eq_some hw
      obtain ⟨hx', rfl⟩ := value?_eq_some hx
      split at h
      · next hbits =>
        cases h
        have ha : (UInt8.ofNat (w' * 4 + x' / 16)).toNat = w' * 4 + x' / 16 := Utf8.toNat_ofNat_of_lt (by omega)
        have hfirst : (w' * 4 + x' / 16) / 4 = w' := by omega
        have hsecond : (w' * 4 + x' / 16) % 4 * 16 = x' := by omega
        simp only [encode, ha, hfirst, hsecond]
      · cases h
  | case4 w x y =>
      simp only [decode?, Option.bind_eq_bind, Option.bind_eq_some_iff] at h
      obtain ⟨w', hw, x', hx, y', hy, h⟩ := h
      obtain ⟨hw', rfl⟩ := value?_eq_some hw
      obtain ⟨hx', rfl⟩ := value?_eq_some hx
      obtain ⟨hy', rfl⟩ := value?_eq_some hy
      split at h
      · next hbits =>
        cases h
        have ha : (UInt8.ofNat (w' * 4 + x' / 16)).toNat = w' * 4 + x' / 16 := Utf8.toNat_ofNat_of_lt (by omega)
        have hb : (UInt8.ofNat (x' % 16 * 16 + y' / 4)).toNat = x' % 16 * 16 + y' / 4 :=
          Utf8.toNat_ofNat_of_lt (by omega)
        have hfirst : (w' * 4 + x' / 16) / 4 = w' := by omega
        have hsecond : (w' * 4 + x' / 16) % 4 * 16 + (x' % 16 * 16 + y' / 4) / 16 = x' := by omega
        have hthird : (x' % 16 * 16 + y' / 4) % 16 * 4 = y' := by omega
        simp only [encode, ha, hb, hfirst, hsecond, hthird]
      · cases h
  | case5 w x y z rest ih =>
      simp only [decode?, Option.bind_eq_bind, Option.bind_eq_some_iff] at h
      obtain ⟨w', hw, x', hx, y', hy, z', hz, tail, htail, h⟩ := h
      obtain ⟨hw', rfl⟩ := value?_eq_some hw
      obtain ⟨hx', rfl⟩ := value?_eq_some hx
      obtain ⟨hy', rfl⟩ := value?_eq_some hy
      obtain ⟨hz', rfl⟩ := value?_eq_some hz
      cases h
      have ha : (UInt8.ofNat (w' * 4 + x' / 16)).toNat = w' * 4 + x' / 16 := Utf8.toNat_ofNat_of_lt (by omega)
      have hb : (UInt8.ofNat (x' % 16 * 16 + y' / 4)).toNat = x' % 16 * 16 + y' / 4 :=
        Utf8.toNat_ofNat_of_lt (by omega)
      have hc : (UInt8.ofNat (y' % 4 * 64 + z')).toNat = y' % 4 * 64 + z' := Utf8.toNat_ofNat_of_lt (by omega)
      have hfirst : (w' * 4 + x' / 16) / 4 = w' := by omega
      have hsecond : (w' * 4 + x' / 16) % 4 * 16 + (x' % 16 * 16 + y' / 4) / 16 = x' := by omega
      have hthird : (x' % 16 * 16 + y' / 4) % 16 * 4 + (y' % 4 * 64 + z') / 64 = y' := by omega
      have hfourth : (y' % 4 * 64 + z') % 64 = z' := by omega
      simp only [encode, ha, hb, hc, hfirst, hsecond, hthird, hfourth, ih htail]

theorem decode?_eq_some_iff {s : List Char} {bytes : List UInt8} : decode? s = some bytes ↔ s = encode bytes :=
  ⟨fun h => (encode_of_decode? h).symm, fun h => h ▸ decode?_encode bytes⟩

theorem length_encode (bytes : List UInt8) : (encode bytes).length = (4 * bytes.length + 2) / 3 := by
  induction bytes using encode.induct with
  | case1 => rfl
  | case2 a => simp [encode]
  | case3 a b => simp [encode]
  | case4 a b c rest ih =>
      simp only [encode, List.length_cons, ih]
      omega

theorem isLetter_encode (bytes : List UInt8) : ∀ c ∈ encode bytes, IsLetter c := by
  induction bytes using encode.induct with
  | case1 => exact fun _ h => absurd h List.not_mem_nil
  | case2 a =>
      have ha := a.toNat_lt
      simp only [encode, List.forall_mem_cons, List.not_mem_nil, false_implies, implies_true, and_true]
      exact ⟨isLetter_letter _ (by omega), isLetter_letter _ (by omega)⟩
  | case3 a b =>
      have ha := a.toNat_lt
      have hb := b.toNat_lt
      simp only [encode, List.forall_mem_cons, List.not_mem_nil, false_implies, implies_true, and_true]
      exact ⟨isLetter_letter _ (by omega), isLetter_letter _ (by omega), isLetter_letter _ (by omega)⟩
  | case4 a b c rest ih =>
      have ha := a.toNat_lt
      have hb := b.toNat_lt
      have hc := c.toNat_lt
      simp only [encode, List.forall_mem_cons]
      exact ⟨isLetter_letter _ (by omega), isLetter_letter _ (by omega), isLetter_letter _ (by omega),
        isLetter_letter _ (by omega), ih⟩

end Passbook.Base64
