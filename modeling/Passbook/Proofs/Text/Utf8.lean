import Passbook.Text.Utf8

/-!
# UTF-8 there and back

The bytes of a text are read back as this text. What has to be shown of one scalar value is that its
first byte tells how many bytes follow, and that the second lies in the range which that first byte
allows.
-/
namespace Passbook.Utf8

theorem toNat_bounds (c : Char) : c.toNat < 0xD800 ∨ 0xE000 ≤ c.toNat ∧ c.toNat < 0x110000 := by
  rcases c.valid with h | h
  · exact .inl h
  · exact .inr ⟨by have := h.1; change 0xE000 ≤ c.val.toNat; omega, h.2⟩

theorem continuation_succ {count value taken : Nat} {low high b : UInt8} {rest : List UInt8}
    (hlow : low.toNat ≤ b.toNat) (hhigh : b.toNat ≤ high.toNat) :
    continuation (count + 1) low high value taken (b :: rest) =
      continuation count 0x80 0xBF (value * 64 + (b.toNat - 0x80)) (taken + 1) rest := by
  rw [continuation, if_pos ⟨UInt8.le_iff_toNat_le.mpr hlow, UInt8.le_iff_toNat_le.mpr hhigh⟩]

section Front
variable {v : Nat} {rest : List UInt8}

theorem toNat_ofNat_of_lt {n : Nat} (h : n < 256) : (UInt8.ofNat n).toNat = n := by
  rw [UInt8.toNat_ofNat', Nat.mod_eq_of_lt h]

theorem continuation_more {count value taken : Nat} (n : Nat) :
    continuation (count + 1) 0x80 0xBF value taken (UInt8.ofNat (n % 64 + 128) :: rest) =
      continuation count 0x80 0xBF (value * 64 + n % 64) (taken + 1) rest := by
  have hb : (UInt8.ofNat (n % 64 + 128)).toNat = n % 64 + 128 := toNat_ofNat_of_lt (by omega)
  rw [continuation_succ (by rw [hb]; exact Nat.le_add_left ..)
    (by rw [hb]; change _ ≤ 191; omega), hb, Nat.add_sub_cancel]

theorem front_one (h : v < 0x80) : front (UInt8.ofNat v) rest = (some (Char.ofNat v), 0) := by
  have hb : (UInt8.ofNat v).toNat = v := toNat_ofNat_of_lt (by omega)
  simp only [front, hb, if_pos h]

theorem front_two (hlow : 0x80 ≤ v) (hhigh : v < 0x800) :
    front (UInt8.ofNat (v / 64 % 32 + 192)) (UInt8.ofNat (v % 64 + 128) :: rest) =
      (some (Char.ofNat v), 1) := by
  have hb : (UInt8.ofNat (v / 64 % 32 + 192)).toNat = v / 64 + 192 := by
    rw [toNat_ofNat_of_lt (by omega)]
    omega
  simp only [front, hb]
  rw [if_neg (by omega), if_neg (by omega), if_pos (by omega), continuation_more, continuation]
  exact congrArg (fun n => (some (Char.ofNat n), 1)) (by omega)

/-- The second byte of three is held to a range that the first one names. -/
theorem front_three (hlow : 0x800 ≤ v) (hhigh : v < 0x10000) (hvalid : v < 0xD800 ∨ 0xE000 ≤ v) :
    front (UInt8.ofNat (v / 4096 % 16 + 224))
        (UInt8.ofNat (v / 64 % 64 + 128) :: UInt8.ofNat (v % 64 + 128) :: rest) =
      (some (Char.ofNat v), 2) := by
  have hb : (UInt8.ofNat (v / 4096 % 16 + 224)).toNat = v / 4096 + 224 := by
    rw [toNat_ofNat_of_lt (by omega)]
    omega
  have hsecond : (UInt8.ofNat (v / 64 % 64 + 128)).toNat = v / 64 % 64 + 128 :=
    toNat_ofNat_of_lt (by omega)
  simp only [front, hb]
  rw [if_neg (by omega), if_neg (by omega), if_neg (by omega)]
  split
  · rw [continuation_succ (by rw [hsecond]; change 160 ≤ _; omega) (by rw [hsecond]; change _ ≤ 191; omega),
      hsecond, continuation_more, continuation]
    exact congrArg (fun n => (some (Char.ofNat n), 2)) (by omega)
  · split
    · rw [continuation_succ (by rw [hsecond]; change 128 ≤ _; omega)
        (by rw [hsecond]; change _ ≤ 159; omega), hsecond, continuation_more, continuation]
      exact congrArg (fun n => (some (Char.ofNat n), 2)) (by omega)
    · rw [if_pos (by omega), continuation_more, continuation_more, continuation]
      exact congrArg (fun n => (some (Char.ofNat n), 2)) (by omega)

theorem front_four (hlow : 0x10000 ≤ v) (hhigh : v < 0x110000) :
    front (UInt8.ofNat (v / 262144 % 8 + 240)) (UInt8.ofNat (v / 4096 % 64 + 128) ::
        UInt8.ofNat (v / 64 % 64 + 128) :: UInt8.ofNat (v % 64 + 128) :: rest) =
      (some (Char.ofNat v), 3) := by
  have hb : (UInt8.ofNat (v / 262144 % 8 + 240)).toNat = v / 262144 + 240 := by
    rw [toNat_ofNat_of_lt (by omega)]
    omega
  have hsecond : (UInt8.ofNat (v / 4096 % 64 + 128)).toNat = v / 4096 % 64 + 128 :=
    toNat_ofNat_of_lt (by omega)
  simp only [front, hb]
  rw [if_neg (by omega), if_neg (by omega), if_neg (by omega), if_neg (by omega), if_neg (by omega),
    if_neg (by omega)]
  split
  · rw [continuation_succ (by rw [hsecond]; change 144 ≤ _; omega) (by rw [hsecond]; change _ ≤ 191; omega),
      hsecond, continuation_more, continuation_more, continuation]
    exact congrArg (fun n => (some (Char.ofNat n), 3)) (by omega)
  · split
    · rw [continuation_more, continuation_more, continuation_more, continuation]
      exact congrArg (fun n => (some (Char.ofNat n), 3)) (by omega)
    · rw [if_pos (by omega), continuation_succ (by rw [hsecond]; change 128 ≤ _; omega)
        (by rw [hsecond]; change _ ≤ 143; omega), hsecond, continuation_more, continuation_more,
        continuation]
      exact congrArg (fun n => (some (Char.ofNat n), 3)) (by omega)

end Front

/-- The bytes of one scalar value are read as this value. -/
theorem front_encodeChar (c : Char) (rest : List UInt8) :
    ∃ b tail, String.utf8EncodeChar c = b :: tail ∧ front b (tail ++ rest) = (some c, tail.length) := by
  have hbounds := toNat_bounds c
  unfold String.utf8EncodeChar
  change ∃ b tail, (if c.toNat ≤ 127 then _ else if c.toNat ≤ 2047 then _ else if c.toNat ≤ 65535 then _
    else _) = _ ∧ _
  split
  · exact ⟨_, [], rfl, (front_one (v := c.toNat) (by omega)).trans (by rw [Char.ofNat_toNat]; rfl)⟩
  · split
    · exact ⟨_, [_], rfl,
        (front_two (v := c.toNat) (by omega) (by omega)).trans (by rw [Char.ofNat_toNat]; rfl)⟩
    · split
      · exact ⟨_, [_, _], rfl,
          (front_three (v := c.toNat) (by omega) (by omega) (by omega)).trans (by rw [Char.ofNat_toNat]; rfl)⟩
      · exact ⟨_, [_, _, _], rfl,
          (front_four (v := c.toNat) (by omega) (by omega)).trans (by rw [Char.ofNat_toNat]; rfl)⟩

/-- What is read first where a text is encoded is its first character. -/
theorem lossy_encodeChar_append (c : Char) (rest : List UInt8) :
    lossy (String.utf8EncodeChar c ++ rest) = c :: lossy rest := by
  obtain ⟨b, tail, hbytes, hfront⟩ := front_encodeChar c rest
  rw [hbytes, List.cons_append, lossy, hfront]
  simp only [List.drop_left]

@[simp] theorem lossy_encode (text : List Char) : lossy (encode text) = text := by
  induction text with
  | nil => rw [encode_nil, lossy]
  | cons c text ih => rw [encode_cons, lossy_encodeChar_append, ih]

theorem toNat_char_of_lt : ∀ n < 256, (Char.ofNat n).toNat = n := by
  decide +kernel

theorem encodeChar_of_lt {c : Char} (h : c.toNat < 128) :
    String.utf8EncodeChar c = [UInt8.ofNat c.toNat] :=
  if_pos (Nat.le_of_lt_succ h)

theorem encode_of_ascii {text : List Char} (h : ∀ c ∈ text, c.toNat < 128) :
    encode text = text.map fun c => UInt8.ofNat c.toNat := by
  induction text with
  | nil => rfl
  | cons c text ih =>
      rw [List.forall_mem_cons] at h
      rw [encode_cons, encodeChar_of_lt h.1, ih h.2]
      rfl

theorem le_of_mem_encodeChar {c : Char} {b : UInt8} (hc : 128 ≤ c.toNat) (hb : b ∈ String.utf8EncodeChar c) :
    128 ≤ b.toNat := by
  have hbyte (n k : Nat) (hk : 128 ≤ k) (hn : n + k < 256) : 128 ≤ (UInt8.ofNat (n + k)).toNat := by
    rw [toNat_ofNat_of_lt hn]
    omega
  unfold String.utf8EncodeChar at hb
  change b ∈ (if c.toNat ≤ 127 then _ else if c.toNat ≤ 2047 then _ else if c.toNat ≤ 65535 then _ else _) at hb
  rw [if_neg (by omega)] at hb
  split at hb
  · simp only [List.mem_cons, List.not_mem_nil, or_false] at hb
    rcases hb with rfl | rfl
    all_goals exact hbyte _ _ (by omega) (by omega)
  · split at hb
    · simp only [List.mem_cons, List.not_mem_nil, or_false] at hb
      rcases hb with rfl | rfl | rfl
      all_goals exact hbyte _ _ (by omega) (by omega)
    · simp only [List.mem_cons, List.not_mem_nil, or_false] at hb
      rcases hb with rfl | rfl | rfl | rfl
      all_goals exact hbyte _ _ (by omega) (by omega)

/-- An ASCII byte of a text is a character of it. -/
theorem mem_of_mem_encode {text : List Char} {b : UInt8} (h : b ∈ encode text) (hb : b.toNat < 128) :
    Char.ofNat b.toNat ∈ text := by
  obtain ⟨c, hc, hmem⟩ := List.mem_flatMap.mp h
  have hascii : c.toNat < 128 :=
    Nat.lt_of_not_le fun hge => absurd (le_of_mem_encodeChar hge hmem) (by omega)
  rw [encodeChar_of_lt hascii, List.mem_singleton] at hmem
  rw [hmem, toNat_ofNat_of_lt (by omega), Char.ofNat_toNat]
  exact hc

end Passbook.Utf8
