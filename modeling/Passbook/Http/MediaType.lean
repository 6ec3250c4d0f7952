/-!
# Media types

The header of a body names its media type: a type, a subtype and parameters. A subtype may end in a
plus sign and the format that it is built on. Parameters only have to be well-formed. Names are read
in any case.
-/
namespace Passbook.Http

/-- A media type without its parameters, in small letters. -/
structure MediaType where
  type : List Char
  /-- the subtype without the format that it is built on -/
  subtype : List Char
  /-- what stands behind the last plus sign -/
  format? : Option (List Char)
deriving DecidableEq, Repr

namespace MediaType

def isTokenChar (c : Char) : Bool :=
  c.isAlphanum || "!#$%&'*+-.^_\x60|~".toList.contains c

/-- A character that may stand between quotes. -/
def isQuotable (c : Char) : Bool := ' ' ≤ c && c ≤ '~'

/-- What stands behind the closing quote, of which the character behind the opening one is none. -/
def behindQuoted : List Char → Option (List Char)
  | [] => none
  | c :: s =>
      if !isQuotable c then none
      else
        match s.dropWhile fun c => isQuotable c && c != '"' with
        | '"' :: rest => some (rest.dropWhile (· == ' '))
        | _ => none

theorem behindQuoted_length {s rest : List Char} (h : behindQuoted s = some rest) :
    rest.length < s.length := by
  unfold behindQuoted at h
  split at h
  · simp at h
  · rename_i c t
    split at h
    · simp at h
    · split at h
      · rename_i r hd
        injection h with h
        subst h
        have front := (List.dropWhile_sublist (fun c => isQuotable c && c != '"') (l := t)).length_le
        have blanks := (List.dropWhile_sublist (· == ' ') (l := r)).length_le
        rw [hd, List.length_cons] at front
        simp only [List.length_cons]
        omega
      · simp at h

/-- Whether parameters are well-formed, each of them behind any number of spaces. -/
def wellFormed (s : List Char) : Bool :=
  match s with
  | [] => true
  | c :: s =>
      if c = ' ' then wellFormed s
      else if !isTokenChar c then false
      else
        match _hn : s.dropWhile isTokenChar with
        | '=' :: '"' :: value =>
            match _hq : behindQuoted value with
            | some [] => true
            | some (';' :: rest) => wellFormed rest
            | _ => false
        | '=' :: value =>
            match _hv : value.dropWhile isTokenChar with
            | [] => true
            | ';' :: rest => if (value.head?.any isTokenChar) then wellFormed rest else false
            | _ => false
        | _ => false
termination_by s.length
decreasing_by
  · simp
  · have front := (List.dropWhile_sublist isTokenChar (l := s)).length_le
    have := behindQuoted_length _hq
    rw [_hn] at front
    simp only [List.length_cons] at *
    omega
  · have front := (List.dropWhile_sublist isTokenChar (l := s)).length_le
    have back := (List.dropWhile_sublist isTokenChar (l := value)).length_le
    rw [_hn] at front
    rw [_hv] at back
    simp only [List.length_cons] at *
    omega

/-- Cuts a subtype at its last plus sign, unless that is its first character. -/
def cut (subtype : List Char) : List Char × Option (List Char) :=
  let behind := (subtype.reverse.takeWhile (· != '+')).reverse
  let front := (subtype.reverse.dropWhile (· != '+')).reverse.dropLast
  if front.isEmpty then (subtype, none) else (front, some behind)

/-- Reads a media type, if it and its parameters are well-formed. -/
def read (s : List Char) : Option MediaType :=
  let type := s.takeWhile isTokenChar
  match s.dropWhile isTokenChar with
  | '/' :: rest =>
      let (subtype, format?) := cut (rest.takeWhile isTokenChar)
      let found : MediaType :=
        { type := type.map Char.toLower
          subtype := subtype.map Char.toLower
          format? := format?.map (List.map Char.toLower) }
      match rest.dropWhile isTokenChar with
      | [] => if type.isEmpty then none else some found
      | ';' :: parameters =>
          if type.isEmpty || subtype.isEmpty || !wellFormed parameters then none else some found
      | _ => none
  | _ => none

/-- Whether bodies of this type are JSON. -/
def isJson (t : MediaType) : Bool :=
  t.type == "application".toList &&
    (t.subtype == "json".toList || t.format? == some "json".toList)

end MediaType
end Passbook.Http
