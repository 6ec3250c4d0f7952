import Passbook.Json.Malformed
import Passbook.Text.Percent
import Passbook.Text.Utf8

/-!
# Strings and words

Scanners for the parts of a JSON text that stand between its punctuation. Each takes the bytes from
its part on and leaves the bytes behind it, which are never more than it was given.
-/
namespace Passbook.Json

/-- The bytes that may stand between the parts of a text. -/
def isBlankByte (b : UInt8) : Bool := b == 0x20 || b == 0x09 || b == 0x0A || b == 0x0D

def dropBlanks (s : List UInt8) : List UInt8 := s.dropWhile isBlankByte

theorem dropBlanks_length (s : List UInt8) : (dropBlanks s).length ≤ s.length :=
  (List.dropWhile_sublist isBlankByte).length_le

def word : List UInt8 → List UInt8 → Except Malformed (List UInt8)
  | [], s => .ok s
  | _ :: _, [] => .error .endInValue
  | b :: bs, c :: rest => if c = b then word bs rest else .error .badWord

theorem word_length {w s rest : List UInt8} (h : word w s = .ok rest) :
    rest.length ≤ s.length := by
  induction w generalizing s with
  | nil => simp_all [word]
  | cons b bs ih =>
    cases s with
    | nil => simp [word] at h
    | cons c s =>
      simp only [word] at h
      split at h
      · have := ih h
        simp only [List.length_cons]
        omega
      · simp at h

def hexFour : List UInt8 → Except Malformed (Nat × List UInt8)
  | a :: b :: c :: d :: rest =>
      match Percent.digitValue? a, Percent.digitValue? b, Percent.digitValue? c,
        Percent.digitValue? d with
      | some a, some b, some c, some d => .ok (((a * 16 + b) * 16 + c) * 16 + d, rest)
      | _, _, _, _ => .error .badEscape
  | _ => .error .endInString

theorem hexFour_length {s rest : List UInt8} {n : Nat} (h : hexFour s = .ok (n, rest)) :
    rest.length < s.length := by
  unfold hexFour at h
  split at h
  · split at h
    · injection h with h
      injection h with _ h
      subst h
      simp only [List.length_cons]
      omega
    · simp at h
  · simp at h

/-- The second half of a code point that is escaped as a pair of surrogates. -/
def lowSurrogate (high : Nat) : List UInt8 → Except Malformed (Char × List UInt8)
  | [] => .error .endInString
  | a :: s =>
      if a ≠ 0x5C then .error .endOfPair
      else
        match s with
        | [] => .error .endInString
        | b :: s =>
            if b ≠ 0x75 then .error .endOfPair
            else
              match hexFour s with
              | .error fault => .error fault
              | .ok (low, rest) =>
                  if 0xDC00 ≤ low ∧ low ≤ 0xDFFF then
                    .ok (Char.ofNat ((high - 0xD800) * 1024 + (low - 0xDC00) + 0x10000), rest)
                  else .error .loneSurrogate

theorem lowSurrogate_length {high : Nat} {s rest : List UInt8} {c : Char}
    (h : lowSurrogate high s = .ok (c, rest)) : rest.length < s.length := by
  unfold lowSurrogate at h
  split at h
  · simp at h
  · split at h
    · simp at h
    · split at h
      · simp at h
      · split at h
        · simp at h
        · split at h
          · simp at h
          · rename_i hf
            have := hexFour_length hf
            split at h
            · injection h with h
              injection h with _ h
              subst h
              simp only [List.length_cons]
              omega
            · simp at h

/-- The character that is escaped by its code point. -/
def escapedCodePoint (s : List UInt8) : Except Malformed (Char × List UInt8) :=
  match hexFour s with
  | .error fault => .error fault
  | .ok (n, rest) =>
      if 0xDC00 ≤ n ∧ n ≤ 0xDFFF then .error .loneSurrogate
      else if 0xD800 ≤ n ∧ n ≤ 0xDBFF then lowSurrogate n rest
      else .ok (Char.ofNat n, rest)

theorem escapedCodePoint_length {s rest : List UInt8} {c : Char}
    (h : escapedCodePoint s = .ok (c, rest)) : rest.length < s.length := by
  unfold escapedCodePoint at h
  split at h
  · simp at h
  · rename_i hf
    have hlt := hexFour_length hf
    split at h
    · simp at h
    · split at h
      · have := lowSurrogate_length h
        omega
      · injection h with h
        injection h with _ h
        subst h
        exact hlt

/-- The character that a letter behind a backslash stands for. -/
def shortEscape? (b : UInt8) : Option Char :=
  if b = 0x22 then some '"'
  else if b = 0x5C then some '\\'
  else if b = 0x2F then some '/'
  else if b = 0x62 then some '\x08'
  else if b = 0x66 then some '\x0c'
  else if b = 0x6E then some '\n'
  else if b = 0x72 then some '\r'
  else if b = 0x74 then some '\t'
  else none

def escaped : List UInt8 → Except Malformed (Char × List UInt8)
  | [] => .error .endInString
  | b :: rest =>
      match shortEscape? b with
      | some c => .ok (c, rest)
      | none => if b = 0x75 then escapedCodePoint rest else .error .badEscape

theorem escaped_length {s rest : List UInt8} {c : Char} (h : escaped s = .ok (c, rest)) :
    rest.length < s.length := by
  unfold escaped at h
  split at h
  · simp at h
  · split at h
    · injection h with h
      injection h with _ h
      subst h
      simp
    · split at h
      · have := escapedCodePoint_length h
        simp only [List.length_cons]
        omega
      · simp at h

/-- The bytes of a string up to its closing quote, with escapes replaced by what they stand for. -/
def stringBytes : List UInt8 → Except Malformed (List UInt8 × List UInt8)
  | [] => .error .endInString
  | b :: s =>
      if b = 0x22 then .ok ([], s)
      else if b = 0x5C then
        match _h : escaped s with
        | .error fault => .error fault
        | .ok (c, rest) =>
            match stringBytes rest with
            | .error fault => .error fault
            | .ok (bytes, rest) => .ok (String.utf8EncodeChar c ++ bytes, rest)
      else if b < 0x20 then .error .controlCharacter
      else
        match stringBytes s with
        | .error fault => .error fault
        | .ok (bytes, rest) => .ok (b :: bytes, rest)
termination_by s => s.length
decreasing_by
  · have := escaped_length _h
    simp only [List.length_cons]
    omega
  · simp

theorem stringBytes_length {s bytes rest : List UInt8} (h : stringBytes s = .ok (bytes, rest)) :
    rest.length < s.length := by
  fun_induction stringBytes s generalizing bytes rest with
  | case1 => simp at h
  | case2 =>
    injection h with h
    injection h with _ h
    subst h
    simp
  | case3 => simp at h
  | case4 => simp at h
  | case5 =>
    rename_i he _ _ hb _ ih
    injection h with h
    injection h with _ h
    subst h
    have := escaped_length he
    have := ih hb
    simp only [List.length_cons]
    omega
  | case6 => simp at h
  | case7 => simp at h
  | case8 b s _ _ _ bytes' rest' hb ih =>
    injection h with h
    injection h with _ h
    subst h
    have := ih hb
    simp only [List.length_cons]
    omega

/-- The text of a string, behind its opening quote. Whether its bytes are UTF-8 is looked at once the
closing quote has been found. -/
def string (s : List UInt8) : Except Malformed (List Char × List UInt8) :=
  match stringBytes s with
  | .error fault => .error fault
  | .ok (bytes, rest) =>
      match Utf8.decode? bytes with
      | some text => .ok (text, rest)
      | none => .error .badCodePoint

theorem string_length {s rest : List UInt8} {text : List Char} (h : string s = .ok (text, rest)) :
    rest.length < s.length := by
  unfold string at h
  split at h
  · simp at h
  · rename_i hs
    split at h
    · injection h with h
      injection h with _ h
      subst h
      exact stringBytes_length hs
    · simp at h

end Passbook.Json
