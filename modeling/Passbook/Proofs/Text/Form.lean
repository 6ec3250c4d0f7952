import Passbook.Proofs.Text.Utf8
import Passbook.Url.Basic

/-!
# Pairs there and back

A name or a value is written in letters, digits and a few marks, so that the characters which separate
pairs, and those which end a query, stay outside. What is written is read back as it was, whatever its
characters; so a query with one more pair behind it is read as one more pair.
-/
namespace Passbook

namespace Split

variable {α : Type} [DecidableEq α] {mark : α}

theorem first_of_not_mem {s : List α} (h : mark ∉ s) : first mark s = (s, []) := by
  induction s with
  | nil => rfl
  | cons a rest ih =>
      rw [List.mem_cons, not_or] at h
      rw [first, if_neg (Ne.symm h.1), ih h.2]

theorem first_append {front : List α} (h : mark ∉ front) (back : List α) :
    first mark (front ++ mark :: back) = (front, back) := by
  induction front with
  | nil => exact if_pos rfl
  | cons a rest ih =>
      rw [List.mem_cons, not_or] at h
      rw [List.cons_append, first, if_neg (Ne.symm h.1), ih h.2]

theorem all_of_not_mem {s : List α} (h : mark ∉ s) : all mark s = [s] := by
  induction s with
  | nil => rfl
  | cons a rest ih =>
      rw [List.mem_cons, not_or] at h
      rw [all, if_neg (Ne.symm h.1), ih h.2]

theorem all_append (front back : List α) :
    all mark (front ++ mark :: back) = all mark front ++ all mark back := by
  induction front with
  | nil => exact if_pos rfl
  | cons a rest ih =>
      rw [List.cons_append, all, all, ih]
      split
      · rfl
      · cases hrest : all mark rest with
        | nil => exact absurd hrest (all_ne_nil mark rest)
        | cons piece pieces => rfl

/-- The pieces between the marks are those that are joined by the marks, if no mark is in them. -/
theorem all_eq_cons_iff {s first : List α} {rest : List (List α)} : all mark s = first :: rest ↔
    s = first ++ rest.flatMap (mark :: ·) ∧ ∀ piece ∈ first :: rest, mark ∉ piece := by
  constructor
  · intro h
    induction s generalizing first rest with
    | nil =>
        cases h
        exact ⟨rfl, List.forall_mem_singleton.mpr List.not_mem_nil⟩
    | cons a s ih =>
        rw [all] at h
        split at h
        · next ha =>
          cases hs : all mark s with
          | nil => exact absurd hs (all_ne_nil mark s)
          | cons second more =>
              obtain ⟨hjoined, hmarks⟩ := ih hs
              obtain ⟨rfl, rfl⟩ := List.cons.inj h
              rw [List.forall_mem_cons, hs, List.flatMap_cons, List.nil_append, List.cons_append, ← hjoined, ha]
              exact ⟨rfl, List.not_mem_nil, hmarks⟩
        · next ha =>
          cases hs : all mark s with
          | nil => exact absurd hs (all_ne_nil mark s)
          | cons second more =>
              obtain ⟨hjoined, hmarks⟩ := ih hs
              obtain ⟨hsecond, hmore⟩ := List.forall_mem_cons.mp hmarks
              rw [hs] at h
              obtain ⟨rfl, rfl⟩ := List.cons.inj h
              refine ⟨congrArg (a :: ·) hjoined, List.forall_mem_cons.mpr ⟨?_, hmore⟩⟩
              exact fun hmem => (List.mem_cons.mp hmem).elim (Ne.symm ha) hsecond
  · rintro ⟨rfl, hmarks⟩
    obtain ⟨hfirst, hrest⟩ := List.forall_mem_cons.mp hmarks
    induction rest generalizing first with
    | nil => rw [List.flatMap_nil, List.append_nil, all_of_not_mem hfirst]
    | cons second rest ih =>
        obtain ⟨hsecond, hmore⟩ := List.forall_mem_cons.mp hrest
        rw [List.flatMap_cons, List.cons_append, all_append, all_of_not_mem hfirst, ih hrest hsecond hmore]
        rfl

end Split

namespace Percent

theorem decode_cons_of_ne {b : UInt8} (h : b ≠ 0x25) (rest : List UInt8) :
    decode (b :: rest) = b :: decode rest := by
  match rest with
  | [] => rfl
  | [_] => rfl
  | high :: low :: rest => rw [decode, if_neg h]

/-- A digit as a byte: it is no plus sign, and it has its value. -/
theorem upperDigit_byte : ∀ n < 16, (Hex.upperDigit n).toNat < 128 ∧
    UInt8.ofNat (Hex.upperDigit n).toNat ≠ 0x2B ∧
      digitValue? (UInt8.ofNat (Hex.upperDigit n).toNat) = some n := by
  decide

theorem decode_escape (b : UInt8) (rest : List UInt8) :
    decode ((escape b).map (fun c => UInt8.ofNat c.toNat) ++ rest) = b :: decode rest := by
  have hlt := b.toNat_lt
  obtain ⟨-, -, hhigh⟩ := upperDigit_byte (b.toNat / 16) (by omega)
  obtain ⟨-, -, hlow⟩ := upperDigit_byte (b.toNat % 16) (by omega)
  have hvalue : b.toNat / 16 * 16 + b.toNat % 16 = b.toNat := by omega
  simp only [escape, List.map_cons, List.map_nil, List.cons_append, List.nil_append]
  rw [decode, if_pos (by decide), hhigh, hlow]
  simp only [hvalue, UInt8.ofNat_toNat]

end Percent

namespace Form

/-- Whether a character may stand in a name or a value as it is written. -/
def isPlainChar (c : Char) : Bool := c.toNat < 128 && !"&=#?".toList.contains c

/-- What holds of the written form of every byte holds of every written name or value. -/
theorem all_encode {p : Char → Bool} (h : ∀ n < 256, (encodeByte (UInt8.ofNat n)).all p = true)
    (text : List Char) : (encode text).all p = true := by
  rw [encode, List.all_flatMap, List.all_eq_true]
  intro b _
  have hb := h b.toNat b.toNat_lt
  rwa [UInt8.ofNat_toNat] at hb

theorem encode_isPlainChar (text : List Char) : ∀ c ∈ encode text, isPlainChar c = true :=
  List.all_eq_true.mp (all_encode (by decide +kernel) text)

theorem ascii_of_isPlainChar {c : Char} (h : isPlainChar c = true) : c.toNat < 128 := by
  simp only [isPlainChar, Bool.and_eq_true, decide_eq_true_eq] at h
  exact h.1

theorem utf8_encode (text : List Char) :
    Utf8.encode (encode text) = (encode text).map fun c => UInt8.ofNat c.toNat :=
  Utf8.encode_of_ascii fun c hc => ascii_of_isPlainChar (encode_isPlainChar text c hc)

theorem mark_not_mem (mark : Char) (hascii : mark.toNat < 128) (hmark : isPlainChar mark = false)
    (text : List Char) : UInt8.ofNat mark.toNat ∉ Utf8.encode (encode text) := by
  rw [utf8_encode]
  intro hmem
  obtain ⟨c, hc, heq⟩ := List.mem_map.mp hmem
  have hplain := encode_isPlainChar text c hc
  have htoNat : c.toNat = mark.toNat := by
    have := congrArg UInt8.toNat heq
    rwa [Utf8.toNat_ofNat_of_lt (by have := ascii_of_isPlainChar hplain; omega),
      Utf8.toNat_ofNat_of_lt (by omega)] at this
  rw [Char.toNat_inj.mp htoNat, hmark] at hplain
  cases hplain

/-- What is read in place of a byte: a plus sign stands for a space. -/
def unplus (b : UInt8) : UInt8 := if b = 0x2B then 0x20 else b

theorem decode_encodeByte (b : UInt8) (rest : List UInt8) :
    Percent.decode (((encodeByte b).map fun c => unplus (UInt8.ofNat c.toNat)) ++ rest) =
      b :: Percent.decode rest := by
  have hlt := b.toNat_lt
  unfold encodeByte
  split
  · next hplain =>
    have hbyte : UInt8.ofNat (Char.ofNat b.toNat).toNat = b := by
      rw [Utf8.toNat_char_of_lt _ (by omega), UInt8.ofNat_toNat]
    have hplus : b ≠ 0x2B := by
      rintro rfl
      cases hplain
    have hpercent : b ≠ 0x25 := by
      rintro rfl
      cases hplain
    rw [List.map_singleton, List.singleton_append, hbyte, unplus, if_neg hplus,
      Percent.decode_cons_of_ne hpercent]
  · split
    · next hspace =>
      subst hspace
      exact Percent.decode_cons_of_ne (by decide) rest
    · have hdigit : ∀ n < 16, unplus (UInt8.ofNat (Hex.upperDigit n).toNat) =
          UInt8.ofNat (Hex.upperDigit n).toNat := fun n hn => if_neg (Percent.upperDigit_byte n hn).2.1
      rw [← Percent.decode_escape b rest]
      refine congrArg (fun bytes => Percent.decode (bytes ++ rest)) ?_
      simp only [Percent.escape, List.map_cons, List.map_nil, hdigit _ (show b.toNat / 16 < 16 by omega),
        hdigit _ (show b.toNat % 16 < 16 by omega)]
      rfl

@[simp] theorem decode_encode (text : List Char) : decode (Utf8.encode (encode text)) = text := by
  have hbytes : ∀ bytes : List UInt8, Percent.decode
      ((bytes.flatMap encodeByte).map fun c => unplus (UInt8.ofNat c.toNat)) = bytes := by
    intro bytes
    induction bytes with
    | nil => rfl
    | cons b bytes ih => rw [List.flatMap_cons, List.map_append, decode_encodeByte, ih]
  rw [decode, utf8_encode, List.map_map]
  exact (congrArg Utf8.lossy (hbytes _)).trans (Utf8.lossy_encode text)

theorem utf8_encodePair (pair : List Char × List Char) :
    Utf8.encode (encodePair pair) =
      Utf8.encode (encode pair.1) ++ 0x3D :: Utf8.encode (encode pair.2) := by
  rw [encodePair, Utf8.encode_append, Utf8.encode_cons, Utf8.encodeChar_of_lt (by decide)]
  rfl

theorem pairs_encodePair (pair : List Char × List Char) : pairs (Utf8.encode (encodePair pair)) = [pair] := by
  have hamp : (0x26 : UInt8) ∉ Utf8.encode (encodePair pair) := by
    have h (text : List Char) : (0x26 : UInt8) ∉ Utf8.encode (encode text) :=
      mark_not_mem '&' (by decide) (by decide) text
    rw [utf8_encodePair, List.mem_append, List.mem_cons]
    rintro (hmem | heq | hmem)
    · exact h _ hmem
    · cases heq
    · exact h _ hmem
  have hequals : (0x3D : UInt8) ∉ Utf8.encode (encode pair.1) :=
    mark_not_mem '=' (by decide) (by decide) pair.1
  rw [pairs, Split.all_of_not_mem hamp, utf8_encodePair]
  simp [Split.first_append hequals]

theorem pairs_append (query rest : List UInt8) :
    pairs (query ++ 0x26 :: rest) = pairs query ++ pairs rest := by
  rw [pairs, Split.all_append, List.filter_append, List.map_append, pairs, pairs]

end Form

namespace Url

/-- A query with one more pair behind it is read as its pairs and that one. -/
theorem pairs_extendQuery (query : List Char) (pair : List Char × List Char) :
    Form.pairs (Utf8.encode (extendQuery query pair)) = Form.pairs (Utf8.encode query) ++ [pair] := by
  unfold extendQuery
  split
  · next hempty =>
    rw [List.isEmpty_iff.mp hempty, Form.pairs_encodePair]
    rfl
  · rw [Utf8.encode_append, Utf8.encode_cons, Utf8.encodeChar_of_lt (by decide)]
    exact (Form.pairs_append _ _).trans (congrArg _ (Form.pairs_encodePair pair))

theorem pairs_foldl_extendQuery (query : List Char) (pairs : List (List Char × List Char)) :
    Form.pairs (Utf8.encode (pairs.foldl extendQuery query)) = Form.pairs (Utf8.encode query) ++ pairs := by
  induction pairs generalizing query with
  | nil => exact (List.append_nil _).symm
  | cons pair pairs ih => rw [List.foldl_cons, ih, pairs_extendQuery, List.append_assoc]; rfl

theorem all_foldl_extendQuery {p : Char → Bool} {query : List Char}
    (hbytes : ∀ n < 256, (Form.encodeByte (UInt8.ofNat n)).all p = true) (hamp : p '&' = true)
    (hequals : p '=' = true) (h : query.all p = true) (pairs : List (List Char × List Char)) :
    (pairs.foldl extendQuery query).all p = true := by
  induction pairs generalizing query with
  | nil => exact h
  | cons pair pairs ih =>
      have hpair : (Form.encodePair pair).all p = true := by
        simp only [Form.encodePair, List.all_append, List.all_cons, Form.all_encode hbytes, hequals,
          Bool.and_self]
      refine ih ?_
      unfold extendQuery
      split
      · exact hpair
      · simp only [List.all_append, List.all_cons, h, hamp, hpair, Bool.and_self]

/-- Further pairs bring no mark into a query that would end it. -/
theorem number_not_mem_foldl_extendQuery {query : List Char} (h : '#' ∉ query)
    (pairs : List (List Char × List Char)) : '#' ∉ pairs.foldl extendQuery query := by
  have hquery : query.all (· != '#') = true :=
    List.all_eq_true.mpr fun c hc => bne_iff_ne.mpr fun heq => h (heq ▸ hc)
  have hall := all_foldl_extendQuery (by decide +kernel) rfl rfl hquery pairs
  exact fun hmem => absurd (List.all_eq_true.mp hall _ hmem) (by decide)

end Url

end Passbook
