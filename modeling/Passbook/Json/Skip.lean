import Passbook.Json.Number
import Passbook.Json.Scan

/-!
# Values that are passed over

A value that nobody asked for is checked for its punctuation only: its strings need not be UTF-8, its
numbers may have any size, and it may be nested to any depth.
-/
namespace Passbook.Json

def skipEscaped : List UInt8 → Except Malformed (List UInt8)
  | [] => .error .endInString
  | b :: rest =>
      if (shortEscape? b).isSome then .ok rest
      else if b = 0x75 then
        match hexFour rest with
        | .error fault => .error fault
        | .ok (_, rest) => .ok rest
      else .error .badEscape

theorem skipEscaped_length {s rest : List UInt8} (h : skipEscaped s = .ok rest) :
    rest.length < s.length := by
  unfold skipEscaped at h
  split at h
  · simp at h
  · split at h
    · injection h with h
      subst h
      simp
    · split at h
      · split at h
        · simp at h
        · rename_i hf
          injection h with h
          subst h
          have := hexFour_length hf
          simp only [List.length_cons]
          omega
      · simp at h

def skipString : List UInt8 → Except Malformed (List UInt8)
  | [] => .error .endInString
  | b :: s =>
      if b = 0x22 then .ok s
      else if b = 0x5C then
        match _h : skipEscaped s with
        | .error fault => .error fault
        | .ok rest => skipString rest
      else if b < 0x20 then .error .controlCharacter
      else skipString s
termination_by s => s.length
decreasing_by
  · have := skipEscaped_length _h
    simp only [List.length_cons]
    omega
  · simp

theorem skipString_length {s rest : List UInt8} (h : skipString s = .ok rest) :
    rest.length < s.length := by
  fun_induction skipString s generalizing rest with
  | case1 => simp at h
  | case2 =>
    injection h with h
    subst h
    simp
  | case3 => simp at h
  | case4 =>
    rename_i he _ ih
    have := skipEscaped_length he
    have := ih h
    simp only [List.length_cons]
    omega
  | case5 => simp at h
  | case6 =>
    rename_i ih
    have := ih h
    simp only [List.length_cons]
    omega

/-- Passes over a value without parts that begins with `b`. -/
def skipScalar (b : UInt8) (s : List UInt8) : Except Malformed (List UInt8) :=
  if b = 0x6E then word [0x75, 0x6C, 0x6C] s
  else if b = 0x74 then word [0x72, 0x75, 0x65] s
  else if b = 0x66 then word [0x61, 0x6C, 0x73, 0x65] s
  else if b = 0x22 then skipString s
  else if b = 0x2D then (Numeral.scan .badNumber s).map Prod.snd
  else if isDigitByte b then (Numeral.scan .badNumber (b :: s)).map Prod.snd
  else .error .noValue

theorem skipScalar_length {b : UInt8} {s rest : List UInt8} (h : skipScalar b s = .ok rest) :
    rest.length < (b :: s).length := by
  have scanned {t : List UInt8} (h : (Numeral.scan .badNumber t).map Prod.snd = .ok rest) :
      rest.length < t.length := by
    cases hs : Numeral.scan .badNumber t with
    | error fault => simp [hs, Except.map] at h
    | ok pair =>
      simp only [hs, Except.map, Except.ok.injEq] at h
      rw [← h]
      exact Numeral.scan_length hs
  simp only [List.length_cons]
  unfold skipScalar at h
  split at h
  · have := word_length h
    omega
  · split at h
    · have := word_length h
      omega
    · split at h
      · have := word_length h
        omega
      · split at h
        · have := skipString_length h
          omega
        · split at h
          · have := scanned h
            omega
          · split at h
            · have := scanned h
              simpa using this
            · simp at h

inductive Bracket where
  | list
  | object
deriving DecidableEq, Repr

/-- What the next byte that is not blank can be. -/
inductive Awaited where
  | value
  /-- a value, or the end of a list that has just begun -/
  | listStart
  /-- a key, or the end of an object that has just begun -/
  | objectStart
  | key
  | colon
  /-- a comma, or the end of the innermost bracket -/
  | next
deriving DecidableEq, Repr

/-- What it means that the text ends here, inside of the brackets `inside`. -/
def Awaited.atEnd (awaited : Awaited) (inside : List Bracket) : Malformed :=
  match awaited with
  | .value => .endInValue
  | .listStart => .endInList
  | .objectStart | .key | .colon => .endInObject
  | .next => if inside.head? = some .list then .endInList else .endInObject

def Bracket.close : Bracket → UInt8
  | .list => 0x5D
  | .object => 0x7D

def Bracket.noSeparator : Bracket → Malformed
  | .list => .noListSeparator
  | .object => .noObjectSeparator

/-- What a comma inside of a bracket is followed by. -/
def Bracket.afterComma : Bracket → Awaited
  | .list => .value
  | .object => .key

/-- Passes over the rest of a value, innermost bracket first. -/
def skip : Awaited → List Bracket → List UInt8 → Except Malformed (List UInt8)
  | .next, [], s => .ok s
  | awaited, inside, [] => .error (awaited.atEnd inside)
  | awaited, inside, b :: s =>
      if isBlankByte b then skip awaited inside s
      else
        match awaited, inside with
        | .next, [] => .ok (b :: s)
        | .next, bracket :: outside =>
            if b = 0x2C then skip bracket.afterComma inside s
            else if b = bracket.close then skip .next outside s
            else .error bracket.noSeparator
        | .colon, inside => if b = 0x3A then skip .value inside s else .error .noColon
        | .key, inside =>
            if b = 0x22 then
              match _h : skipString s with
              | .error fault => .error fault
              | .ok rest => skip .colon inside rest
            else .error .keyIsNoString
        | .objectStart, inside =>
            if b = 0x7D then skip .next (inside.drop 1) s
            else if b = 0x22 then
              match _h : skipString s with
              | .error fault => .error fault
              | .ok rest => skip .colon inside rest
            else .error .keyIsNoString
        | awaited, inside =>
            if b = 0x5D ∧ awaited = .listStart then skip .next (inside.drop 1) s
            else if b = 0x5B then skip .listStart (.list :: inside) s
            else if b = 0x7B then skip .objectStart (.object :: inside) s
            else
              match _h : skipScalar b s with
              | .error fault => .error fault
              | .ok rest => skip .next inside rest
termination_by _ _ s => s.length
decreasing_by
  all_goals
    first
      | exact Nat.lt_succ_of_lt (skipString_length _h)
      | exact skipScalar_length _h
      | exact Nat.lt_succ_self _

def skipValue (s : List UInt8) : Except Malformed (List UInt8) := skip .value [] s

theorem skip_length {awaited : Awaited} {inside : List Bracket} {s rest : List UInt8}
    (h : skip awaited inside s = .ok rest) : rest.length ≤ s.length := by
  fun_induction skip awaited inside s generalizing rest <;>
    grind [→ skipString_length, → skipScalar_length]

theorem skipValue_length {s rest : List UInt8} (h : skipValue s = .ok rest) :
    rest.length ≤ s.length :=
  skip_length h

end Passbook.Json
