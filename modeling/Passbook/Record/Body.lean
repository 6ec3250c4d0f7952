import Passbook.Json.Skip
import Passbook.Record.Shape

/-!
# Records in JSON

A record is an object with its members in any order, or a list of them in their own order. Members
with other names are passed over. The bytes are read from left to right and the first fault counts:
a member of the wrong kind is reported even if the text breaks off behind it.
-/
namespace Passbook.Body

open Json

/-- Reports a fault of the text as a whole. -/
def fail {β : Type} (fault : Malformed) : Except LocatedFault β :=
  .error { fault := .malformed fault }

/-- Puts the faults of a part at its place. -/
def inside {β : Type} (place : List Char) : Except RecordFault β → Except LocatedFault β
  | .ok value => .ok value
  | .error fault => .error ⟨place, fault⟩

/-- A scanner of JSON as a part of a record. -/
def scanned {β : Type} : Except Malformed β → Except RecordFault β
  | .ok value => .ok value
  | .error fault => .error (.malformed fault)

/-- What a value is that is neither text nor number, and that begins with `b`. -/
def other (b : UInt8) (s : List UInt8) : Except Malformed Seen :=
  if b = 0x6E then (word [0x75, 0x6C, 0x6C] s).map fun _ => .null
  else if b = 0x74 then (word [0x72, 0x75, 0x65] s).map fun _ => .bool true
  else if b = 0x66 then (word [0x61, 0x6C, 0x73, 0x65] s).map fun _ => .bool false
  else if b = 0x5B then .ok .list
  else if b = 0x7B then .ok .object
  else .error .noValue

/-- What the bytes are where something else is wanted. -/
def mistaken {β : Type} (wanted : String) (b : UInt8) (s : List UInt8) : Except RecordFault β :=
  let seen : Except Malformed Seen :=
    if b = 0x22 then (string s).map fun (text, _) => .text text
    else if b = 0x2D then (number true s).map fun (n, _) => .number n
    else if isDigitByte b then (number false (b :: s)).map fun (n, _) => .number n
    else other b s
  match seen with
  | .ok seen => .error (.wrongKind seen wanted)
  | .error fault => .error (.malformed fault)

def integer (n : Number) : Except RecordFault Scalar :=
  match n with
  | .int n => if IntegerRange.signed64.holds n then .ok (.int n) else .error (.outOfRange n)
  | .fraction .. => .error (.wrongKind (.number n) Scalar.Kind.int.title)

/-- A value of the wanted kind that begins with `b`. -/
def scalar (kind : Scalar.Kind) (b : UInt8) (s : List UInt8) :
    Except RecordFault (Scalar × List UInt8) :=
  match kind with
  | .text =>
      if b = 0x22 then (scanned (string s)).map fun (text, rest) => (.text text, rest)
      else mistaken kind.title b s
  | .int =>
      if b = 0x2D ∨ isDigitByte b = true then
        match if b = 0x2D then number true s else number false (b :: s) with
        | .error fault => .error (.malformed fault)
        | .ok (n, rest) => (integer n).map fun value => (value, rest)
      else mistaken kind.title b s

def value (kind : Scalar.Kind) (s : List UInt8) : Except RecordFault (Scalar × List UInt8) :=
  match dropBlanks s with
  | [] => .error (.malformed .endInValue)
  | b :: rest => scalar kind b rest

/-- The next key of an object, or `none` behind its end. -/
def nextKey (first : Bool) (s : List UInt8) :
    Except Malformed (Option (List Char) × List UInt8) :=
  let key (b : UInt8) (s : List UInt8) : Except Malformed (Option (List Char) × List UInt8) :=
    if b = 0x22 then
      match string s with
      | .error fault => .error fault
      | .ok (text, rest) => .ok (some text, rest)
    else .error .keyIsNoString
  match dropBlanks s with
  | [] => .error .endInObject
  | b :: s =>
      if b = 0x7D then .ok (none, s)
      else if first then key b s
      else if b = 0x2C then
        match dropBlanks s with
        | [] => .error .endInValue
        | b :: s => if b = 0x7D then .error .trailingComma else key b s
      else .error .noObjectSeparator

/-- What stands behind the colon of a member. -/
def behindColon (s : List UInt8) : Except Malformed (List UInt8) :=
  match dropBlanks s with
  | [] => .error .endInObject
  | b :: s => if b = 0x3A then .ok s else .error .noColon

theorem scalar_length {kind : Scalar.Kind} {b : UInt8} {s rest : List UInt8} {v : Scalar}
    (h : scalar kind b s = .ok (v, rest)) : rest.length ≤ s.length := by
  have noMistake {t : List UInt8} {wanted : String}
      (h : mistaken wanted b t = .ok (v, rest)) : False := by
    simp only [mistaken] at h
    split at h <;> simp at h
  unfold scalar at h
  split at h
  · split at h
    · cases hs : string s with
      | error fault => simp [scanned, hs, Except.map] at h
      | ok pair =>
        obtain ⟨text, r⟩ := pair
        simp only [scanned, hs, Except.map, Except.ok.injEq, Prod.mk.injEq] at h
        rw [← h.2]
        exact Nat.le_of_lt (string_length hs)
    · exact (noMistake h).elim
  · split at h
    · split at h
      · simp at h
      · rename_i n r hn
        cases hi : integer n with
        | error fault => simp [hi, Except.map] at h
        | ok w =>
          simp only [hi, Except.map, Except.ok.injEq, Prod.mk.injEq] at h
          rw [← h.2]
          split at hn
          · exact Nat.le_of_lt (number_length hn)
          · exact Nat.le_of_lt_succ (number_length hn)
    · exact (noMistake h).elim

theorem value_length {kind : Scalar.Kind} {s rest : List UInt8} {v : Scalar}
    (h : value kind s = .ok (v, rest)) : rest.length ≤ s.length := by
  have drop := dropBlanks_length s
  unfold value at h
  split at h
  · simp at h
  · rename_i hb
    have := scalar_length h
    rw [hb, List.length_cons] at drop
    omega

theorem nextKey_length {first : Bool} {s rest : List UInt8} {key : Option (List Char)}
    (h : nextKey first s = .ok (key, rest)) : rest.length < s.length := by
  have keyed {b : UInt8} {t : List UInt8}
      (h : (if b = 0x22 then
          match string t with
          | .error fault => .error fault
          | .ok (text, rest) => .ok (some text, rest)
        else Except.error Malformed.keyIsNoString) = .ok (key, rest)) :
      rest.length < t.length := by
    split at h
    · split at h
      · simp at h
      · rename_i hs
        injection h with h
        injection h with _ h
        subst h
        exact string_length hs
    · simp at h
  have drop := dropBlanks_length s
  simp only [nextKey] at h
  split at h
  · simp at h
  · rename_i b t hb
    rw [hb, List.length_cons] at drop
    split at h
    · injection h with h
      injection h with _ h
      subst h
      omega
    · split at h
      · have := keyed h
        omega
      · split at h
        · have dropAgain := dropBlanks_length t
          split at h
          · simp at h
          · rename_i hb
            rw [hb, List.length_cons] at dropAgain
            split at h
            · simp at h
            · have := keyed h
              omega
        · simp at h

theorem behindColon_length {s rest : List UInt8} (h : behindColon s = .ok rest) :
    rest.length < s.length := by
  have drop := dropBlanks_length s
  unfold behindColon at h
  split at h
  · simp at h
  · rename_i hb
    rw [hb, List.length_cons] at drop
    split at h
    · injection h with h
      subst h
      omega
    · simp at h

/-- The member behind a colon: what it adds to `found`, and what follows. -/
def memberValue (member? : Option Member) (found : Found) (s : List UInt8) :
    Except RecordFault (Found × List UInt8) :=
  match member? with
  | none => (scanned (skipValue s)).map fun rest => (found, rest)
  | some member =>
      (value member.kind s).map fun (scalar, rest) => ((member.name, scalar) :: found, rest)

theorem memberValue_length {member? : Option Member} {found found' : Found} {s rest : List UInt8}
    (h : memberValue member? found s = .ok (found', rest)) : rest.length ≤ s.length := by
  unfold memberValue at h
  split at h
  · cases hs : skipValue s with
    | error fault => simp [scanned, hs, Except.map] at h
    | ok r =>
      simp only [scanned, hs, Except.map, Except.ok.injEq, Prod.mk.injEq] at h
      rw [← h.2]
      exact skipValue_length hs
  · rename_i member
    cases hv : value member.kind s with
    | error fault => simp [hv, Except.map] at h
    | ok pair =>
      obtain ⟨v, r⟩ := pair
      simp only [hv, Except.map, Except.ok.injEq, Prod.mk.injEq] at h
      rw [← h.2]
      exact value_length hv

variable {α : Type}

/-- Reports a member that was found before. -/
def checkNew (member? : Option Member) (found : Found) : Except RecordFault Unit :=
  match member? with
  | none => .ok ()
  | some member =>
      if (found.lookup member.name).isSome then .error (.duplicate member.name) else .ok ()

/-- The members of an object behind its opening brace. -/
def objectMembers (shape : RecordShape α) (first : Bool) (found : Found) (s : List UInt8) :
    Except LocatedFault (Found × List UInt8) :=
  match _hk : nextKey first s with
  | .error fault => fail fault
  | .ok (none, rest) => .ok (found, rest)
  | .ok (some key, s₁) =>
      match checkNew (shape.member? key) found with
      | .error fault => .error { fault := fault }
      | .ok () =>
          match _hc : behindColon s₁ with
          | .error fault => fail fault
          | .ok s₂ =>
              match _hv : memberValue (shape.member? key) found s₂ with
              | .error fault => .error ⟨key, fault⟩
              | .ok (found, s₃) => objectMembers shape false found s₃
termination_by s.length
decreasing_by
  have := nextKey_length _hk
  have := behindColon_length _hc
  have := memberValue_length _hv
  omega

/-- The next item of a list, or `none` in front of its end. -/
def nextItem (first : Bool) (s : List UInt8) : Except Malformed (Option (List UInt8)) :=
  match dropBlanks s with
  | [] => .error .endInList
  | b :: s =>
      if b = 0x5D then .ok none
      else if first then .ok (some (b :: s))
      else if b = 0x2C then
        match dropBlanks s with
        | [] => .error .endInValue
        | b :: s => if b = 0x5D then .error .trailingComma else .ok (some (b :: s))
      else .error .noListSeparator

/-- What stands behind the end of a list that holds all members. -/
def listEnd (s : List UInt8) : Except Malformed (List UInt8) :=
  match dropBlanks s with
  | [] => .error .endInList
  | b :: s =>
      if b = 0x5D then .ok s
      else if b = 0x2C ∧ (dropBlanks s).head? = some 0x5D then .error .trailingComma
      else .error .trailingCharacters

/-- The place of an item of a list. -/
def itemPlace (index : Nat) : List Char := '[' :: Decimal.ofNat index ++ [']']

/-- The items of a list behind its opening bracket, one for each of the members. -/
def listItems (wanted : String) (index : Nat) (found : Found) :
    List Member → List UInt8 → Except LocatedFault (Found × List UInt8)
  | [], s =>
      match listEnd s with
      | .error fault => fail fault
      | .ok rest => .ok (found, rest)
  | member :: members, s =>
      match nextItem (index == 0) s with
      | .error fault => fail fault
      | .ok none =>
          if member.optional then listItems wanted (index + 1) found members s
          else .error { fault := .tooShort index wanted }
      | .ok (some s) =>
          match value member.kind s with
          | .error fault => .error ⟨itemPlace index, fault⟩
          | .ok (scalar, s) =>
              listItems wanted (index + 1) ((member.name, scalar) :: found) members s

/-- The values that an object or a list gives to the members of a record. -/
def values (shape : RecordShape α) (s : List UInt8) : Except LocatedFault (Found × List UInt8) :=
  match dropBlanks s with
  | [] => fail .endInValue
  | b :: s =>
      if b = 0x7B then objectMembers shape true [] s
      else if b = 0x5B then listItems shape.listTitle 0 [] shape.members s
      else inside ['.'] (mistaken shape.title b s)

/-- Reads a record from the whole of a text. -/
def read (shape : RecordShape α) (bytes : List UInt8) : Except LocatedFault α := do
  let (found, rest) ← values shape bytes
  let record ← inside ['.'] (shape.build found)
  if (dropBlanks rest).isEmpty then return record else fail .trailingCharacters

end Passbook.Body
