import Passbook.Proofs.Json.Scan
import Passbook.Record.Body

/-!
# Values there and back

A reader takes a text apart into a value. It remembers what is still open around the value that it is
about to read, so that it never has to go back. What is written for a value is read as this value, for
integers of 64 bits and any strings, and however deep its parts are nested; so different values have
different texts. Numbers with a fraction or an exponent are no values of this kind.
-/
namespace Passbook.Json

open Body (nextKey behindColon nextKey_length behindColon_length)

/-- What is still open around a value: a list with the items in front of it, or an object with the fields
in front of it and its own key; the last one comes first. -/
inductive Frame where
  | list (items : List Value)
  | object (fields : List (String × Value)) (key : List Char)

def integer : Except Malformed (Number × List UInt8) → Except Malformed (Value × List UInt8)
  | .ok (.int n, rest) => .ok (.int n, rest)
  | .ok (.fraction .., _) => .error .badNumber
  | .error fault => .error fault

def scalar (b : UInt8) (s : List UInt8) : Except Malformed (Value × List UInt8) :=
  if b = 0x6E then (word [0x75, 0x6C, 0x6C] s).map fun rest => (.null, rest)
  else if b = 0x74 then (word [0x72, 0x75, 0x65] s).map fun rest => (.bool true, rest)
  else if b = 0x66 then (word [0x61, 0x6C, 0x73, 0x65] s).map fun rest => (.bool false, rest)
  else if b = 0x22 then (string s).map fun (text, rest) => (.text text, rest)
  else if b = 0x2D then integer (number true s)
  else if isDigitByte b then integer (number false (b :: s))
  else .error .noValue

/-- Whether a list ends here, and what follows: what stands behind its end or the next item. -/
def nextItem (first : Bool) (s : List UInt8) : Except Malformed (Bool × List UInt8) :=
  match dropBlanks s with
  | [] => .error .endInList
  | b :: rest =>
      if b = 0x5D then .ok (true, rest)
      else if first then .ok (false, b :: rest)
      else if b = 0x2C then .ok (false, rest)
      else .error .noListSeparator

theorem integer_length {scanned : Except Malformed (Number × List UInt8)} {v : Value} {rest : List UInt8}
    {bound : Nat} (hscanned : ∀ n rest, scanned = .ok (n, rest) → rest.length < bound)
    (h : integer scanned = .ok (v, rest)) : rest.length < bound := by
  unfold integer at h
  split at h
  · cases h
    exact hscanned _ _ rfl
  · cases h
  · cases h

theorem scalar_length {b : UInt8} {s rest : List UInt8} {v : Value} (h : scalar b s = .ok (v, rest)) :
    rest.length < (b :: s).length := by
  have hword {w : List UInt8} {v' : Value} (h : (word w s).map (fun rest => (v', rest)) = .ok (v, rest)) :
      rest.length < (b :: s).length := by
    cases hw : word w s with
    | error fault =>
        rw [hw] at h
        cases h
    | ok behind =>
        rw [hw] at h
        cases h
        exact Nat.lt_succ_of_le (word_length hw)
  unfold scalar at h
  split at h
  · exact hword h
  split at h
  · exact hword h
  split at h
  · exact hword h
  split at h
  · cases hs : string s with
    | error fault =>
        rw [hs] at h
        cases h
    | ok scanned =>
        rw [hs] at h
        cases h
        exact Nat.lt_succ_of_lt (string_length hs)
  split at h
  · exact integer_length (fun _ _ hn => Nat.lt_succ_of_lt (number_length hn)) h
  split at h
  · exact integer_length (fun _ _ hn => number_length hn) h
  · cases h

theorem nextItem_length {first ended : Bool} {s rest : List UInt8} (h : nextItem first s = .ok (ended, rest)) :
    rest.length ≤ s.length ∧ (first = false → rest.length < s.length) := by
  have hdrop := dropBlanks_length s
  unfold nextItem at h
  split at h
  · cases h
  · next b behind heq =>
      rw [heq, List.length_cons] at hdrop
      split at h
      · cases h
        exact ⟨by omega, fun _ => by omega⟩
      split at h
      · next hfirst =>
          cases h
          refine ⟨by rw [List.length_cons]; omega, fun hnot => ?_⟩
          rw [hfirst] at hnot
          cases hnot
      split at h
      · cases h
        exact ⟨by omega, fun _ => by omega⟩
      · cases h

mutual

/-- Reads a value with what is open around it, and goes on to the end of the outermost value. -/
def opening (stack : List Frame) (s : List UInt8) : Except Malformed (Value × List UInt8) :=
  match _hs : dropBlanks s with
  | [] => .error .endInValue
  | b :: s' =>
      if b = 0x5B then
        match _h : nextItem true s' with
        | .error fault => .error fault
        | .ok (true, rest) => closing stack (.array []) rest
        | .ok (false, rest) => opening (.list [] :: stack) rest
      else if b = 0x7B then
        match _h : nextKey true s' with
        | .error fault => .error fault
        | .ok (none, rest) => closing stack (.object []) rest
        | .ok (some key, rest) =>
            match _hc : behindColon rest with
            | .error fault => .error fault
            | .ok rest => opening (.object [] key :: stack) rest
      else
        match _h : scalar b s' with
        | .error fault => .error fault
        | .ok (v, rest) => closing stack v rest
termination_by s.length
decreasing_by
  all_goals
    have hdrop := dropBlanks_length s
    rw [_hs, List.length_cons] at hdrop
  · have := (nextItem_length _h).1
    omega
  · have := (nextItem_length _h).1
    omega
  · have := nextKey_length _h
    omega
  · have := nextKey_length _h
    have := behindColon_length _hc
    omega
  · have := scalar_length _h
    rw [List.length_cons] at this
    omega

/-- Goes on behind a value that has been read. -/
def closing (stack : List Frame) (v : Value) (s : List UInt8) : Except Malformed (Value × List UInt8) :=
  match stack with
  | [] => .ok (v, s)
  | .list items :: stack =>
      match _h : nextItem false s with
      | .error fault => .error fault
      | .ok (true, rest) => closing stack (.array (v :: items).reverse) rest
      | .ok (false, rest) => opening (.list (v :: items) :: stack) rest
  | .object fields key :: stack =>
      match _h : nextKey false s with
      | .error fault => .error fault
      | .ok (none, rest) => closing stack (.object ((String.ofList key, v) :: fields).reverse) rest
      | .ok (some next, rest) =>
          match _hc : behindColon rest with
          | .error fault => .error fault
          | .ok rest => opening (.object ((String.ofList key, v) :: fields) next :: stack) rest
termination_by s.length
decreasing_by
  · exact (nextItem_length _h).2 rfl
  · exact (nextItem_length _h).2 rfl
  · exact nextKey_length _h
  · have := nextKey_length _h
    have := behindColon_length _hc
    omega

end

def read (bytes : List UInt8) : Except Malformed Value :=
  match opening [] bytes with
  | .error fault => .error fault
  | .ok (v, rest) => if (dropBlanks rest).isEmpty then .ok v else .error .trailingCharacters

namespace Value

/-- The written form of a value in bytes. -/
def bytes (v : Value) : List UInt8 := Utf8.encode v.chars

inductive Fits : Value → Prop
  | null : Fits .null
  | bool (b : Bool) : Fits (.bool b)
  | int {n : Int} : -0x8000000000000000 ≤ n → n ≤ 0xffffffffffffffff → Fits (.int n)
  | text (s : List Char) : Fits (.text s)
  | array {items : List Value} : (∀ item ∈ items, Fits item) → Fits (.array items)
  | object {fields : List (String × Value)} : (∀ field ∈ fields, Fits field.2) → Fits (.object fields)

end Value

section Marks
variable {b : UInt8}

theorem dropBlanks_mark (h : isBlankByte b = false) (s : List UInt8) : dropBlanks (b :: s) = b :: s :=
  List.dropWhile_cons_of_neg (by simp [h])

theorem endsNumber_mark (hdigit : isDigitByte b = false) (hpoint : b ≠ 0x2E) (hsmall : b ≠ 0x65)
    (hlarge : b ≠ 0x45) (rest : List UInt8) : EndsNumber (b :: rest) := by
  rintro b' ⟨⟩
  exact ⟨hdigit, hpoint, hsmall, hlarge⟩

theorem endsNumber_further {α : Type} (written : α → List UInt8) (further : List α) {close : UInt8}
    (hclose : close = 0x5D ∨ close = 0x7D) (rest : List UInt8) :
    EndsNumber ((further.flatMap fun part => 0x2C :: written part) ++ close :: rest) := by
  cases further with
  | cons part further => exact endsNumber_mark (by decide) (by decide) (by decide) (by decide) _
  | nil =>
      rcases hclose with rfl | rfl
      · exact endsNumber_mark (by decide) (by decide) (by decide) (by decide) rest
      · exact endsNumber_mark (by decide) (by decide) (by decide) (by decide) rest

theorem digit_ne (h : isDigitByte b = true) : isBlankByte b = false ∧ b ≠ 0x5B ∧ b ≠ 0x7B ∧ b ≠ 0x6E ∧
    b ≠ 0x74 ∧ b ≠ 0x66 ∧ b ≠ 0x22 ∧ b ≠ 0x2D := by
  have hall : ∀ n < 256, isDigitByte (UInt8.ofNat n) = true → isBlankByte (UInt8.ofNat n) = false ∧
      UInt8.ofNat n ≠ 0x5B ∧ UInt8.ofNat n ≠ 0x7B ∧ UInt8.ofNat n ≠ 0x6E ∧ UInt8.ofNat n ≠ 0x74 ∧
      UInt8.ofNat n ≠ 0x66 ∧ UInt8.ofNat n ≠ 0x22 ∧ UInt8.ofNat n ≠ 0x2D := by
    decide +kernel
  have hb := hall b.toNat b.toNat_lt
  rw [UInt8.ofNat_toNat] at hb
  exact hb h

end Marks

/-- A value without parts is read up to its end. -/
theorem opening_scalar {stack : List Frame} {b : UInt8} {s rest : List UInt8} {v : Value}
    (hblank : isBlankByte b = false) (hlist : b ≠ 0x5B) (hobject : b ≠ 0x7B)
    (h : scalar b s = .ok (v, rest)) : opening stack (b :: s) = closing stack v rest := by
  rw [opening]
  split
  · next heq => exact nomatch heq.symm.trans (dropBlanks_mark hblank s)
  · next heq =>
      cases heq.symm.trans (dropBlanks_mark hblank s)
      rw [if_neg hlist, if_neg hobject]
      split
      · next hfault => cases hfault.symm.trans h
      · next hscalar =>
          cases hscalar.symm.trans h
          rfl

theorem opening_list {stack : List Frame} {s rest : List UInt8} {ended : Bool}
    (h : nextItem true s = .ok (ended, rest)) :
    opening stack (0x5B :: s) =
      if ended then closing stack (.array []) rest else opening (.list [] :: stack) rest := by
  rw [opening]
  split
  · next heq => exact nomatch heq.symm.trans (dropBlanks_mark (by decide) s)
  · next heq =>
      cases heq.symm.trans (dropBlanks_mark (by decide) s)
      rw [if_pos rfl]
      split
      · next hfault => cases hfault.symm.trans h
      · next hnext =>
          cases hnext.symm.trans h
          rfl
      · next hnext =>
          cases hnext.symm.trans h
          rfl

theorem opening_object {stack : List Frame} {s rest : List UInt8} {key : Option (List Char)}
    (h : nextKey true s = .ok (key, rest)) :
    opening stack (0x7B :: s) =
      match key with
      | none => closing stack (.object []) rest
      | some key =>
          match behindColon rest with
          | .error fault => .error fault
          | .ok rest => opening (.object [] key :: stack) rest := by
  rw [opening]
  split
  · next heq => exact nomatch heq.symm.trans (dropBlanks_mark (by decide) s)
  · next heq =>
      cases heq.symm.trans (dropBlanks_mark (by decide) s)
      rw [if_neg (by decide), if_pos rfl]
      split
      · next hfault => cases hfault.symm.trans h
      · next hnext =>
          cases hnext.symm.trans h
          rfl
      · next hnext =>
          cases hnext.symm.trans h
          dsimp only
          split
          · next hfault => rw [hfault]
          · next hcolon => rw [hcolon]

/-- The quoted name of a field and its colon. -/
def nameBytes (name : String) : List UInt8 :=
  0x22 :: Utf8.encode (name.toList.flatMap Value.escape) ++ [0x22, 0x3A]

theorem behindColon_colon (rest : List UInt8) : behindColon (0x3A :: rest) = .ok rest := by
  rw [behindColon, dropBlanks_mark (by decide)]
  rfl

theorem encode_field (name : String) (v : Value) :
    Utf8.encode (Value.quote name.toList ++ ':' :: v.chars) = nameBytes name ++ v.bytes := by
  have hquote : String.utf8EncodeChar '"' = [0x22] := by decide
  have hcolon : String.utf8EncodeChar ':' = [0x3A] := by decide
  simp only [Value.quote, nameBytes, Value.bytes, Utf8.encode_append, Utf8.encode_cons, hquote, hcolon,
    List.cons_append, List.nil_append, List.append_assoc]

theorem nextKey_first (name : String) (rest : List UInt8) :
    nextKey true (nameBytes name ++ rest) = .ok (some name.toList, 0x3A :: rest) := by
  have hstring := string_quote name.toList (0x3A :: rest)
  rw [nameBytes, List.append_assoc, List.cons_append, nextKey, dropBlanks_mark (by decide)]
  simp only [List.cons_append, List.nil_append]
  rw [if_neg (by decide)]
  simp only [if_true, hstring]

theorem nextKey_further (name : String) (rest : List UInt8) :
    nextKey false (0x2C :: (nameBytes name ++ rest)) = .ok (some name.toList, 0x3A :: rest) := by
  have hstring := string_quote name.toList (0x3A :: rest)
  rw [nameBytes, List.append_assoc, List.cons_append, nextKey, dropBlanks_mark (by decide)]
  simp only [List.cons_append, List.nil_append]
  rw [if_neg (by decide), if_neg (by decide), dropBlanks_mark (by decide)]
  simp only [if_true]
  rw [if_neg (by decide), hstring]

theorem closing_list {stack : List Frame} {items : List Value} {v : Value} {s rest : List UInt8}
    {ended : Bool} (h : nextItem false s = .ok (ended, rest)) :
    closing (.list items :: stack) v s =
      if ended then closing stack (.array (v :: items).reverse) rest
      else opening (.list (v :: items) :: stack) rest := by
  rw [closing]
  split
  · next hfault => cases hfault.symm.trans h
  · next hnext =>
      cases hnext.symm.trans h
      rfl
  · next hnext =>
      cases hnext.symm.trans h
      rfl

theorem closing_object_end {stack : List Frame} {fields : List (String × Value)} {key : List Char} {v : Value}
    (rest : List UInt8) :
    closing (.object fields key :: stack) v (0x7D :: rest) =
      closing stack (.object ((String.ofList key, v) :: fields).reverse) rest := by
  have h : nextKey false (0x7D :: rest) = .ok (none, rest) := by
    rw [nextKey, dropBlanks_mark (by decide)]
    rfl
  rw [closing]
  split
  · next hfault => cases hfault.symm.trans h
  · next hnext =>
      cases hnext.symm.trans h
      rfl
  · next hnext => cases hnext.symm.trans h

theorem closing_object_next {stack : List Frame} {fields : List (String × Value)} {key : List Char} {v : Value}
    (name : String) (rest : List UInt8) :
    closing (.object fields key :: stack) v (0x2C :: (nameBytes name ++ rest)) =
      opening (.object ((String.ofList key, v) :: fields) name.toList :: stack) rest := by
  have h := nextKey_further name rest
  rw [closing]
  split
  · next hfault => cases hfault.symm.trans h
  · next hnext => cases hnext.symm.trans h
  · next hnext =>
      cases hnext.symm.trans h
      split
      · next hfault => cases hfault.symm.trans (behindColon_colon rest)
      · next hcolon =>
          cases hcolon.symm.trans (behindColon_colon rest)
          rfl

namespace Value

theorem bytes_ofNat (n : Nat) : bytes (.int (.ofNat n)) = digitBytes n := encode_ofNat n

theorem bytes_negSucc (n : Nat) : bytes (.int (.negSucc n)) = 0x2D :: digitBytes (n + 1) := by
  rw [bytes, chars, Decimal.ofInt, Utf8.encode_cons, encode_ofNat]
  rfl

theorem bytes_text (s : List Char) :
    bytes (.text s) = 0x22 :: (Utf8.encode (s.flatMap escape) ++ [0x22]) := by
  have hquote : String.utf8EncodeChar '"' = [0x22] := by decide
  rw [bytes, chars, quote, List.cons_append, Utf8.encode_cons, Utf8.encode_append, Utf8.encode_cons, hquote]
  rfl

theorem bytes_array (items : List Value) :
    bytes (.array items) = 0x5B :: (Utf8.encode (itemChars items) ++ [0x5D]) := by
  have hopen : String.utf8EncodeChar '[' = [0x5B] := by decide
  have hclose : String.utf8EncodeChar ']' = [0x5D] := by decide
  rw [bytes, chars, List.cons_append, Utf8.encode_cons, Utf8.encode_append, Utf8.encode_cons, hopen, hclose]
  rfl

theorem bytes_object (fields : List (String × Value)) :
    bytes (.object fields) = 0x7B :: (Utf8.encode (fieldChars fields) ++ [0x7D]) := by
  have hopen : String.utf8EncodeChar '\x7b' = [0x7B] := by decide
  have hclose : String.utf8EncodeChar '\x7d' = [0x7D] := by decide
  rw [bytes, chars, List.cons_append, Utf8.encode_cons, Utf8.encode_append, Utf8.encode_cons, hopen, hclose]
  rfl

theorem encode_itemChars (item : Value) (items : List Value) :
    Utf8.encode (itemChars (item :: items)) = item.bytes ++ items.flatMap fun item => 0x2C :: item.bytes := by
  have hcomma : String.utf8EncodeChar ',' = [0x2C] := by decide
  induction items generalizing item with
  | nil => rw [itemChars, List.flatMap_nil, List.append_nil, bytes]
  | cons next items ih =>
      rw [itemChars, Utf8.encode_append, Utf8.encode_cons, ih next, hcomma, bytes, List.flatMap_cons]
      rfl

theorem encode_fieldChars (name : String) (v : Value) (fields : List (String × Value)) :
    Utf8.encode (fieldChars ((name, v) :: fields)) = nameBytes name ++
      (v.bytes ++ fields.flatMap fun field => 0x2C :: (nameBytes field.1 ++ field.2.bytes)) := by
  have hcomma : String.utf8EncodeChar ',' = [0x2C] := by decide
  induction fields generalizing name v with
  | nil => rw [fieldChars, List.flatMap_nil, List.append_nil, encode_field]
  | cons next fields ih =>
      obtain ⟨next, w⟩ := next
      rw [fieldChars, Utf8.encode_append, encode_field, Utf8.encode_cons, ih next w, hcomma,
        List.flatMap_cons, List.append_assoc]
      simp only [List.cons_append, List.nil_append, List.append_assoc]

/-- What a value is written with first: it is neither a blank nor the end of a list. -/
theorem exists_cons (v : Value) : ∃ b rest, v.bytes = b :: rest ∧ isBlankByte b = false ∧ b ≠ 0x5D := by
  cases v with
  | null => exact ⟨_, _, rfl, by decide, by decide⟩
  | bool b => cases b <;> exact ⟨_, _, rfl, by decide, by decide⟩
  | text s => exact ⟨_, _, rfl, by decide, by decide⟩
  | array items => exact ⟨_, _, rfl, by decide, by decide⟩
  | object fields => exact ⟨_, _, rfl, by decide, by decide⟩
  | int n =>
      cases n with
      | negSucc n => exact ⟨_, _, rfl, by decide, by decide⟩
      | ofNat n =>
          obtain ⟨c, rest, hdigits, hc⟩ := Decimal.ofNat_eq_cons n
          have hbytes := bytes_ofNat n
          rw [digitBytes, hdigits, List.map_cons] at hbytes
          have hdigit := (digit_toNat hc).1
          refine ⟨_, _, hbytes, (digit_ne hdigit).1, fun h => ?_⟩
          rw [h] at hdigit
          cases hdigit

/-- What is read in place of the value that was written: the value, and what stood behind it. -/
def ReadsBack (v : Value) : Prop :=
  ∀ (stack : List Frame) (rest : List UInt8), EndsNumber rest →
    opening stack (v.bytes ++ rest) = closing stack v rest

theorem closing_items {items : List Value} (h : ∀ item ∈ items, item.ReadsBack) (stack : List Frame)
    (seen : List Value) (item : Value) (rest : List UInt8) :
    closing (.list seen :: stack) item ((items.flatMap fun item => 0x2C :: item.bytes) ++ 0x5D :: rest) =
      closing stack (.array (seen.reverse ++ item :: items)) rest := by
  induction items generalizing seen item with
  | nil =>
      have hend : nextItem false (0x5D :: rest) = .ok (true, rest) := by
        rw [nextItem, dropBlanks_mark (by decide)]
        rfl
      rw [List.flatMap_nil, List.nil_append, closing_list hend, if_pos rfl, List.reverse_cons]
  | cons next items ih =>
      obtain ⟨hnext, hitems⟩ := List.forall_mem_cons.mp h
      have hcomma (behind : List UInt8) : nextItem false (0x2C :: behind) = .ok (false, behind) := by
        rw [nextItem, dropBlanks_mark (by decide)]
        rfl
      rw [List.flatMap_cons, List.cons_append, List.cons_append, closing_list (hcomma _), if_neg (by decide),
        List.append_assoc]
      have hends := endsNumber_further bytes items (.inl rfl) rest
      rw [hnext _ _ hends, ih hitems (item :: seen) next, List.reverse_cons, List.append_assoc]
      rfl

theorem closing_fields {fields : List (String × Value)} (h : ∀ field ∈ fields, field.2.ReadsBack)
    (stack : List Frame) (seen : List (String × Value)) (name : String) (v : Value) (rest : List UInt8) :
    closing (.object seen name.toList :: stack) v
        ((fields.flatMap fun field => 0x2C :: (nameBytes field.1 ++ field.2.bytes)) ++ 0x7D :: rest) =
      closing stack (.object (seen.reverse ++ (name, v) :: fields)) rest := by
  induction fields generalizing seen name v with
  | nil =>
      rw [List.flatMap_nil, List.nil_append, closing_object_end, String.ofList_toList, List.reverse_cons]
  | cons next fields ih =>
      obtain ⟨hnext, hfields⟩ := List.forall_mem_cons.mp h
      have hends := endsNumber_further (fun field : String × Value => nameBytes field.1 ++ field.2.bytes) fields
        (.inr rfl) rest
      rw [List.flatMap_cons, List.cons_append, List.cons_append, List.append_assoc, List.append_assoc,
        closing_object_next, String.ofList_toList, hnext _ _ hends,
        ih hfields ((name, v) :: seen) next.1 next.2, List.reverse_cons, List.append_assoc]
      rfl

theorem readsBack_int {n : Int} (hlow : -0x8000000000000000 ≤ n) (hhigh : n ≤ 0xffffffffffffffff) :
    (Value.int n).ReadsBack := by
  intro stack rest hrest
  cases n with
  | ofNat n =>
      have hlimit : n ≤ Numeral.limit := Int.ofNat_le.mp hhigh
      obtain ⟨c, digits, hdigits, hc⟩ := Decimal.ofNat_eq_cons n
      have hdigit := (digit_toNat hc).1
      obtain ⟨hblank, hlist, hobject, hnull, htrue, hfalse, hquote, hminus⟩ := digit_ne hdigit
      have hnumber := number_digits hlimit hrest
      rw [bytes_ofNat]
      rw [digitBytes, hdigits, List.map_cons, List.cons_append] at hnumber ⊢
      refine opening_scalar hblank hlist hobject ?_
      rw [scalar, if_neg hnull, if_neg htrue, if_neg hfalse, if_neg hquote, if_neg hminus, if_pos hdigit,
        hnumber]
      rfl
  | negSucc n =>
      have hnumber := number_negative (n := n + 1) (by omega) (by omega) hrest
      rw [bytes_negSucc, List.cons_append]
      refine opening_scalar (by decide) (by decide) (by decide) ?_
      rw [scalar, if_neg (by decide), if_neg (by decide), if_neg (by decide), if_neg (by decide), if_pos rfl,
        hnumber]
      rfl

theorem readsBack_array {items : List Value} (h : ∀ item ∈ items, item.ReadsBack) : (array items).ReadsBack := by
  intro stack rest _
  rw [bytes_array, List.cons_append, List.append_assoc, List.singleton_append]
  cases items with
  | nil =>
      have hend : nextItem true (0x5D :: rest) = .ok (true, rest) := by
        rw [nextItem, dropBlanks_mark (by decide)]
        rfl
      exact opening_list hend
  | cons item items =>
      obtain ⟨hitem, hitems⟩ := List.forall_mem_cons.mp h
      obtain ⟨b, tail, hcons, hblank, hne⟩ := exists_cons item
      have hnext (behind : List UInt8) :
          nextItem true (item.bytes ++ behind) = .ok (false, item.bytes ++ behind) := by
        rw [hcons, List.cons_append, nextItem, dropBlanks_mark hblank]
        simp only [if_neg hne, if_true]
      have hends := endsNumber_further bytes items (.inl rfl) rest
      rw [encode_itemChars, List.append_assoc, opening_list (hnext _), if_neg (by decide),
        hitem _ _ hends, closing_items hitems]
      rfl

theorem readsBack_object {fields : List (String × Value)} (h : ∀ field ∈ fields, field.2.ReadsBack) :
    (object fields).ReadsBack := by
  intro stack rest _
  rw [bytes_object, List.cons_append, List.append_assoc, List.singleton_append]
  cases fields with
  | nil =>
      have hend : nextKey true (0x7D :: rest) = .ok (none, rest) := by
        rw [nextKey, dropBlanks_mark (by decide)]
        rfl
      exact opening_object hend
  | cons field fields =>
      obtain ⟨name, v⟩ := field
      obtain ⟨hfield, hfields⟩ := List.forall_mem_cons.mp h
      have hends := endsNumber_further (fun field : String × Value => nameBytes field.1 ++ field.2.bytes)
        fields (.inr rfl) rest
      rw [encode_fieldChars, List.append_assoc, List.append_assoc, opening_object (nextKey_first _ _)]
      simp only [behindColon_colon]
      rw [hfield _ _ hends, closing_fields hfields]
      rfl

/-- What is written for a value is read as this value, whatever is open around it. -/
theorem Fits.readsBack {v : Value} (h : v.Fits) : v.ReadsBack := by
  induction h with
  | null => exact fun stack rest _ => opening_scalar (by decide) (by decide) (by decide) rfl
  | bool b => cases b <;> exact fun stack rest _ => opening_scalar (by decide) (by decide) (by decide) rfl
  | int hlow hhigh => exact readsBack_int hlow hhigh
  | text s =>
      intro stack rest _
      rw [bytes_text, List.cons_append, List.append_assoc]
      refine opening_scalar (by decide) (by decide) (by decide) ?_
      rw [scalar, if_neg (by decide), if_neg (by decide), if_neg (by decide), if_pos rfl, List.singleton_append,
        string_quote]
      rfl
  | array _ ih => exact readsBack_array ih
  | object _ ih => exact readsBack_object ih

/-- The text of a value is read as this value. -/
theorem Fits.read_render {v : Value} (h : v.Fits) : read (Utf8.encode v.render.toList) = .ok v := by
  have hopening := h.readsBack [] [] (fun b hb => nomatch hb)
  rw [List.append_nil, closing] at hopening
  rw [read, render, String.toList_ofList]
  change (match opening [] v.bytes with
    | .error fault => _
    | .ok (v, rest) => _) = _
  rw [hopening]
  rfl

/-- Different values have different texts. -/
theorem Fits.render_inj {v w : Value} (hv : v.Fits) (hw : w.Fits) : v.render = w.render ↔ v = w := by
  refine ⟨fun h => ?_, fun h => by rw [h]⟩
  have hread := hv.read_render
  rw [h, hw.read_render] at hread
  exact (Except.ok.inj hread).symm

end Value

end Passbook.Json
