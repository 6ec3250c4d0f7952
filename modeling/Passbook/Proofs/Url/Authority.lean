import Passbook.Proofs.Text.Decimal
import Passbook.Url.Reader

/-!
# Where the host of a URL stands

In a URL of a well-known scheme the host stands behind the last `@` in front of the path, up to a colon
outside brackets or to the path. Nothing else in the URL has a part in it: whatever stands in front of the
`@` and behind the first slash, question mark or number sign, the host is read as it is read alone, and
where it is no host, it is refused as it is refused alone.
-/
namespace Passbook

section Results
variable {ε α β : Type} {result : Except ε α}

theorem map_eq_ok_iff {f : α → β} {b : β} : result.map f = .ok b ↔ ∃ a, result = .ok a ∧ f a = b := by
  cases result with
  | error fault => exact iff_of_false nofun nofun
  | ok a => simp [Except.map]

theorem bind_eq_ok_iff {f : α → Except ε β} {b : β} :
    result.bind f = .ok b ↔ ∃ a, result = .ok a ∧ f a = .ok b := by
  cases result with
  | error fault => exact iff_of_false nofun nofun
  | ok a => simp [Except.bind]

end Results

namespace Url

/-- Whether a text is empty or begins with a character that satisfies `p`. -/
def Begins (p : Char → Bool) (s : List Char) : Prop := ∀ c ∈ s.head?, p c = true

namespace Begins

variable {p : Char → Bool} {front back : List Char}

theorem nil : Begins p [] := nofun

theorem cons {c : Char} (hc : p c = true) (s : List Char) : Begins p (c :: s) :=
  fun _ heq => Option.some.inj heq ▸ hc

theorem of_all {s : List Char} (h : ∀ c ∈ s, p c = true) : Begins p s :=
  fun c hc => h c (List.mem_of_mem_head? hc)

theorem append (hfront : Begins p front) (hback : Begins p back) : Begins p (front ++ back) := by
  cases front with
  | nil => exact hback
  | cons c front => exact cons (hfront c rfl) _

theorem imp {q : Char → Bool} (h : Begins p front) (himp : ∀ c, p c = true → q c = true) : Begins q front :=
  fun c hc => himp c (h c hc)

end Begins

section Fronts
variable {p : Char → Bool} {front back : List Char}

theorem takeWhile_append_of_begins (hfront : ∀ c ∈ front, p c = false) (hback : Begins p back) :
    (front ++ back).takeWhile (!p ·) = front := by
  rw [List.takeWhile_append_of_pos (by simpa using hfront)]
  cases back with
  | nil => exact List.append_nil front
  | cons c back => rw [List.takeWhile_cons_of_neg (by simpa using hback c rfl), List.append_nil]

theorem dropWhile_append_of_begins (hfront : ∀ c ∈ front, p c = false) (hback : Begins p back) :
    (front ++ back).dropWhile (!p ·) = back := by
  rw [List.dropWhile_append_of_pos (by simpa using hfront)]
  cases back with
  | nil => rfl
  | cons c back => rw [List.dropWhile_cons_of_neg (by simpa using hback c rfl)]

theorem dropWhile_of_begins (h : Begins (!p ·) front) : front.dropWhile p = front := by
  cases front with
  | nil => rfl
  | cons c front => rw [List.dropWhile_cons_of_neg (by simpa using h c rfl)]

end Fronts

/-- A text with a host, and perhaps a port: it has no mark that begins or ends the place of a host, and no
blank and no control character that would be skipped. -/
structure IsHostText (s : List Char) : Prop where
  ne_nil : s ≠ []
  marks : ∀ c ∈ s, c ∉ ['@', '/', '\\', '?', '#']
  visible : ∀ c ∈ s, 32 < c.toNat

theorem endsAuthority_eq_true {c : Char} : endsAuthority true c = true ↔ c ∈ ['/', '\\', '?', '#'] := by
  simp [endsAuthority, isSlash, or_assoc]

theorem endsAuthority_eq_false {c : Char} : endsAuthority true c = false ↔ c ∉ ['/', '\\', '?', '#'] := by
  rw [← endsAuthority_eq_true, Bool.not_eq_true]

namespace IsHostText

variable {s : List Char}

theorem at_not_mem (h : IsHostText s) : '@' ∉ s := fun hmem => h.marks _ hmem List.mem_cons_self

theorem stays (h : IsHostText s) : ∀ c ∈ s, endsAuthority true c = false := fun c hc =>
  endsAuthority_eq_false.mpr fun hmem => h.marks c hc (List.mem_cons_of_mem _ hmem)

theorem isEdge_eq_false (h : IsHostText s) : ∀ c ∈ s, isEdge c = false := fun c hc =>
  decide_eq_false (Nat.not_le.mpr (h.visible c hc))

end IsHostText

section HostPort
variable {scheme back : List Char}

theorem digit?_of_endsAuthority {c : Char} (h : endsAuthority true c = true) : Decimal.digit? c = none := by
  rw [endsAuthority_eq_true] at h
  simp only [List.mem_cons, List.not_mem_nil, or_false] at h
  rcases h with rfl | rfl | rfl | rfl
  all_goals exact if_neg (by decide)

/-- A port is read in front of a path as it is read alone. -/
theorem takePort_append {digits : List Char} (hdigits : ∀ c ∈ digits, endsAuthority true c = false)
    (hback : Begins (endsAuthority true) back) (value : Nat) (seen : Bool) :
    takePort value seen (digits ++ back) =
      (takePort value seen digits).map fun (port, rest) => (port, rest ++ back) := by
  induction digits generalizing value seen with
  | nil =>
      cases back with
      | nil => rfl
      | cons c back =>
          simp only [List.nil_append, takePort, digit?_of_endsAuthority (hback c rfl), hback c rfl, if_true]
          rfl
  | cons c digits ih =>
      obtain ⟨hc, hdigits⟩ := List.forall_mem_cons.mp hdigits
      rw [List.cons_append, takePort, takePort]
      split
      · dsimp only
        split
        · rfl
        · exact ih hdigits _ _
      · rw [hc]
        rfl

/-- A port behind a host, if a colon begins it. The port that the scheme stands for is left out. -/
def readPort (scheme : List Char) : List Char → Except UrlFault (Option Nat × List Char)
  | ':' :: digits => (takePort 0 false digits).map fun (port, rest) =>
      (if port = defaultPort? scheme then none else port, rest)
  | rest => .ok (none, rest)

theorem readPort_of_ne {c : Char} (hc : c ≠ ':') (rest : List Char) :
    readPort scheme (c :: rest) = .ok (none, c :: rest) := by
  rw [readPort]
  intro digits heq
  exact hc (List.cons.inj heq).1

theorem readPort_append {rest : List Char} (hrest : ∀ c ∈ rest, endsAuthority true c = false)
    (hback : Begins (endsAuthority true) back) :
    readPort scheme (rest ++ back) = (readPort scheme rest).map fun (port, rest) => (port, rest ++ back) := by
  cases rest with
  | nil =>
      cases back with
      | nil => rfl
      | cons c back =>
          have hc : c ≠ ':' := by
            rintro rfl
            exact absurd (hback ':' rfl) (by decide)
          exact readPort_of_ne hc back
  | cons c rest =>
      by_cases hc : c = ':'
      case pos =>
        rw [hc, List.cons_append, readPort, readPort, takePort_append (List.forall_mem_cons.mp hrest).2 hback]
        cases takePort 0 false rest with
        | error fault => rfl
        | ok read => rfl
      case neg =>
        rw [List.cons_append, readPort_of_ne hc, readPort_of_ne hc]
        rfl

theorem hostRead_nil : Host.read [] = .error .emptyHost := by
  have hdecoded : Utf8.lossy (Percent.decode (Utf8.encode [])) = [] := by decide +kernel
  have hascii : Domain.toAscii [] = some [] := by decide +kernel
  simp only [Host.read, hdecoded, hascii]

theorem hostRead_ne_empty {s : List Char} : Host.read s ≠ .ok (.domain []) := by
  intro h
  unfold Host.read at h
  split at h
  · unfold Host.bracketed at h
    split at h
    · obtain ⟨groups, -, hgroups⟩ := map_eq_ok_iff.mp h
      cases hgroups
    · cases h
  · split at h
    · cases h
    · cases h
    · next name hname _ =>
      split at h
      · obtain ⟨address, -, haddress⟩ := map_eq_ok_iff.mp h
        cases haddress
      · cases h
        exact hname rfl

/-- A host of a well-known scheme and its port are read one behind the other. -/
theorem readHostPort_web (s : List Char) :
    readHostPort .web scheme s = (Host.read (s.take (hostLength true false s))).bind fun host =>
      (readPort scheme (s.drop (hostLength true false s))).map fun (port, rest) => (host, port, rest) := by
  unfold readHostPort
  dsimp only [Kind.isSpecial]
  generalize s.drop (hostLength true false s) = rest
  cases htext : s.take (hostLength true false s) with
  | nil => rw [hostRead_nil]; rfl
  | cons c text =>
      cases hread : Host.read (c :: text) with
      | error fault => rfl
      | ok host =>
          have hne : host ≠ .domain [] := fun heq => hostRead_ne_empty (heq ▸ hread)
          simp only [List.isEmpty_cons, Bool.and_false, if_true, Bool.false_eq_true, if_false]
          dsimp only [bind, Except.bind]
          split
          · next digits =>
            rw [if_neg hne, readPort]
            cases takePort 0 false digits with
            | error fault => rfl
            | ok read => rfl
          · next hcolon =>
            rw [readPort]
            · rfl
            · exact hcolon

theorem readHostPort_ne_empty {s : List Char} {read : Host × Option Nat × List Char}
    (hread : readHostPort .web scheme s = .ok read) : read.1 ≠ .domain [] := by
  rw [readHostPort_web] at hread
  obtain ⟨host, hhost, hread⟩ := bind_eq_ok_iff.mp hread
  obtain ⟨rest, -, rfl⟩ := map_eq_ok_iff.mp hread
  intro heq
  obtain rfl : host = .domain [] := heq
  exact hostRead_ne_empty hhost

end HostPort

/-- Whether a bracket is open behind a text. -/
def bracketOpen (inside : Bool) (s : List Char) : Bool :=
  s.foldl (fun inside c => c == '[' || (inside && c != ']')) inside

/-- Whether all colons of a text are between brackets. -/
def ColonsInside (inside : Bool) (s : List Char) : Prop :=
  ∀ front back, s = front ++ ':' :: back → bracketOpen inside front = true

/-- Whether a text names a host: it is one, or it is one with a port behind it. The first colon outside
brackets is the one in front of the port. -/
inductive Names (host : Host) : List Char → Prop
  | alone {name} : ColonsInside false name → Host.read name = .ok host → Names host name
  | withPort {name digits} : ColonsInside false name → bracketOpen false name = false →
      Host.read name = .ok host → (∀ c ∈ digits, c.isDigit = true) → Nat.ofDigitChars 10 digits 0 ≤ 65535 →
      Names host (name ++ ':' :: digits)

section Names
variable {scheme name h digits : List Char} {host : Host} {inside : Bool}

theorem colonsInside_cons {c : Char} {s : List Char} : ColonsInside inside (c :: s) ↔
    (c = ':' → inside = true) ∧ ColonsInside (c == '[' || (inside && c != ']')) s := by
  constructor
  · intro hcolons
    refine ⟨fun hc => hcolons [] s (congrArg (· :: s) hc), fun front back heq => ?_⟩
    exact hcolons (c :: front) back (congrArg (c :: ·) heq)
  · rintro ⟨hc, hcolons⟩ front back heq
    cases front with
    | nil => exact hc (List.cons.inj heq).1
    | cons d front =>
        obtain ⟨rfl, htail⟩ := List.cons.inj heq
        exact hcolons front back htail

theorem colonsInside_of_not_mem {s : List Char} (hs : ':' ∉ s) : ColonsInside inside s :=
  fun front _ heq => absurd (heq ▸ List.mem_append_right front List.mem_cons_self) hs

/-- Whether a character ends a host behind a text: a colon does so outside brackets. -/
def endsHost (inside : Bool) (name : List Char) (c : Char) : Bool := c == ':' && !bracketOpen inside name

theorem hostLength_of_colonsInside (hname : ∀ c ∈ name, endsAuthority true c = false)
    (hcolons : ColonsInside inside name) {rest : List Char}
    (hrest : Begins (fun c => endsHost inside name c || endsAuthority true c) rest) :
    hostLength true inside (name ++ rest) = name.length := by
  induction name generalizing inside with
  | nil =>
      cases rest with
      | nil => rfl
      | cons c rest => exact if_pos (hrest c rfl)
  | cons c name ih =>
      obtain ⟨hc, hname⟩ := List.forall_mem_cons.mp hname
      obtain ⟨hcolon, hcolons⟩ := colonsInside_cons.mp hcolons
      have hstays : (c == ':' && !inside || endsAuthority true c) = false := by
        rw [hc, Bool.or_false]
        by_cases heq : c = ':'
        · rw [hcolon heq, Bool.not_true, Bool.and_false]
        · rw [beq_eq_false_iff_ne.mpr heq, Bool.false_and]
      rw [List.cons_append, hostLength, hstays, ih hname hcolons hrest]
      rfl

/-- A text can be cut in front of its first colon outside brackets. -/
theorem exists_cut (inside : Bool) (s : List Char) : ∃ name rest, s = name ++ rest ∧
    ColonsInside inside name ∧ Begins (endsHost inside name) rest := by
  induction s generalizing inside with
  | nil => exact ⟨[], [], rfl, colonsInside_of_not_mem List.not_mem_nil, .nil⟩
  | cons c s ih =>
      by_cases hc : c = ':' ∧ inside = false
      · refine ⟨[], c :: s, rfl, colonsInside_of_not_mem List.not_mem_nil, .cons ?_ s⟩
        rw [hc.1, hc.2]
        rfl
      · obtain ⟨name, rest, rfl, hcolons, hrest⟩ := ih (c == '[' || (inside && c != ']'))
        refine ⟨c :: name, rest, rfl, colonsInside_cons.mpr ⟨fun heq => ?_, hcolons⟩, hrest⟩
        simpa [heq] using hc

theorem readHostPort_of_cut {rest : List Char} (hname : ∀ c ∈ name, endsAuthority true c = false)
    (hcolons : ColonsInside false name)
    (hrest : Begins (fun c => endsHost false name c || endsAuthority true c) rest) :
    readHostPort .web scheme (name ++ rest) = (Host.read name).bind fun host =>
      (readPort scheme rest).map fun (port, rest) => (host, port, rest) := by
  rw [readHostPort_web, hostLength_of_colonsInside hname hcolons hrest, List.take_left, List.drop_left]

theorem readHostPort_append (hh : ∀ c ∈ h, endsAuthority true c = false) {back : List Char}
    (hback : Begins (endsAuthority true) back) :
    readHostPort .web scheme (h ++ back) =
      (readHostPort .web scheme h).map fun (host, port, rest) => (host, port, rest ++ back) := by
  obtain ⟨name, rest, rfl, hcolons, hrest⟩ := exists_cut false h
  obtain ⟨hname, hdigits⟩ := List.forall_mem_append.mp hh
  have hrest : Begins (fun c => endsHost false name c || endsAuthority true c) rest :=
    hrest.imp fun c hc => by rw [hc, Bool.true_or]
  have hback' : Begins (fun c => endsHost false name c || endsAuthority true c) back :=
    hback.imp fun c hc => by rw [hc, Bool.or_true]
  rw [List.append_assoc, readHostPort_of_cut hname hcolons (hrest.append hback'),
    readHostPort_of_cut hname hcolons hrest, readPort_append hdigits hback]
  cases Host.read name with
  | error fault => rfl
  | ok host =>
      cases readPort scheme rest with
      | error fault => rfl
      | ok read => rfl

theorem takePort_digits_iff (hdigits : ∀ c ∈ digits, endsAuthority true c = false) {value : Nat}
    (hvalue : value ≤ 65535) {seen : Bool} : (∃ read, takePort value seen digits = .ok read) ↔
      (∀ c ∈ digits, c.isDigit = true) ∧ Nat.ofDigitChars 10 digits value ≤ 65535 := by
  induction digits generalizing value seen with
  | nil => exact iff_of_true ⟨_, rfl⟩ ⟨nofun, hvalue⟩
  | cons c digits ih =>
      obtain ⟨hc, hdigits⟩ := List.forall_mem_cons.mp hdigits
      by_cases hdigit : c.isDigit = true
      case pos =>
        have hnext : value * 10 + (c.toNat - '0'.toNat) = 10 * value + (c.toNat - '0'.toNat) := by omega
        have hle := Decimal.le_ofDigitChars digits (10 * value + (c.toNat - '0'.toNat))
        simp only [takePort, Decimal.digit?_of_isDigit hdigit, hnext, Nat.ofDigitChars_cons,
          List.forall_mem_cons, hdigit, true_and]
        split
        · exact iff_of_false nofun fun h => by omega
        · next hsmall => exact ih hdigits (Nat.le_of_not_lt hsmall)
      case neg =>
        have hnone : Decimal.digit? c = none := by
          refine if_neg fun h => hdigit ?_
          simp only [Char.isDigit, Bool.and_eq_true, decide_eq_true_eq]
          exact h
        refine iff_of_false ?_ fun h => hdigit (h.1 c List.mem_cons_self)
        simp only [takePort, hnone, hc, Bool.false_eq_true, if_false]
        exact nofun

theorem readPort_digits_iff (hdigits : ∀ c ∈ digits, endsAuthority true c = false) :
    (∃ read, readPort scheme (':' :: digits) = .ok read) ↔
      (∀ c ∈ digits, c.isDigit = true) ∧ Nat.ofDigitChars 10 digits 0 ≤ 65535 := by
  rw [← takePort_digits_iff hdigits (Nat.zero_le _), readPort]
  cases takePort 0 false digits with
  | error fault => exact iff_of_false nofun nofun
  | ok read => exact iff_of_true ⟨_, rfl⟩ ⟨_, rfl⟩

/-- A host is read from a text that is cut behind it, if a port can be read there. -/
theorem readHostPort_cut_iff {rest : List Char} (hname : ∀ c ∈ name, endsAuthority true c = false)
    (hcolons : ColonsInside false name) (hrest : Begins (endsHost false name) rest) :
    (readHostPort .web scheme (name ++ rest)).map Prod.fst = .ok host ↔
      Host.read name = .ok host ∧ ∃ read, readPort scheme rest = .ok read := by
  rw [readHostPort_of_cut hname hcolons (hrest.imp fun c hc => by rw [hc, Bool.true_or])]
  cases Host.read name with
  | error fault => exact iff_of_false nofun (fun h => nomatch h.1)
  | ok other =>
      cases readPort scheme rest with
      | error fault => exact iff_of_false nofun (fun h => nomatch h.2)
      | ok read => exact ⟨fun h => ⟨h, _, rfl⟩, fun h => h.1⟩

/-- The texts that a host is read from are those that name it. -/
theorem readHostPort_iff (hh : ∀ c ∈ h, endsAuthority true c = false) :
    (readHostPort .web scheme h).map Prod.fst = .ok host ↔ Names host h := by
  constructor
  · intro hread
    obtain ⟨name, rest, rfl, hcolons, hrest⟩ := exists_cut false h
    obtain ⟨hname, hback⟩ := List.forall_mem_append.mp hh
    obtain ⟨hhost, hport⟩ := (readHostPort_cut_iff hname hcolons hrest).mp hread
    cases rest with
    | nil =>
        rw [List.append_nil]
        exact .alone hcolons hhost
    | cons c digits =>
        have hcolon := hrest c rfl
        simp only [endsHost, Bool.and_eq_true, beq_iff_eq, Bool.not_eq_true'] at hcolon
        obtain ⟨rfl, hopen⟩ := hcolon
        obtain ⟨-, hback⟩ := List.forall_mem_cons.mp hback
        obtain ⟨hdigits, hvalue⟩ := (readPort_digits_iff hback).mp hport
        exact .withPort hcolons hopen hhost hdigits hvalue
  · intro hnames
    cases hnames with
    | alone hcolons hhost =>
        rw [← List.append_nil h]
        exact (readHostPort_cut_iff hh hcolons .nil).mpr ⟨hhost, _, rfl⟩
    | withPort hcolons hopen hhost hdigits hvalue =>
        obtain ⟨hname, hback⟩ := List.forall_mem_append.mp hh
        obtain ⟨-, hback⟩ := List.forall_mem_cons.mp hback
        exact (readHostPort_cut_iff hname hcolons (.cons (by rw [endsHost, hopen]; rfl) _)).mpr
          ⟨hhost, (readPort_digits_iff hback).mpr ⟨hdigits, hvalue⟩⟩

end Names

section Userinfo
variable {scheme user h back : List Char}

theorem splitLastAt_of_not_mem (hat : '@' ∉ h) : splitLastAt h = none := by
  rw [splitLastAt, List.contains_eq_mem, decide_eq_false hat]
  rfl

theorem splitLastAt_append (hat : '@' ∉ h) : splitLastAt (user ++ '@' :: h) = some (user, h) := by
  have hmem : (user ++ '@' :: h).contains '@' = true := by simp
  have hback : (user ++ '@' :: h).reverse.takeWhile (· != '@') = h.reverse := by
    rw [List.reverse_append, List.reverse_cons, List.append_assoc]
    refine takeWhile_append_of_begins (fun c hc => beq_eq_false_iff_ne.mpr ?_) (by simp [Begins])
    rintro rfl
    exact hat (List.mem_reverse.mp hc)
  have hlength : (user ++ '@' :: h).length - h.reverse.length - 1 = user.length := by
    rw [List.length_append, List.length_cons, List.length_reverse]
    omega
  simp only [splitLastAt, hmem, if_true, hback, hlength, List.take_left, List.reverse_reverse]

/-- The host that an authority is read with, where it is read. -/
def Authority.hostOf (read : Except UrlFault (Authority × List Char)) : Except UrlFault Host :=
  read.map fun (authority, _) => authority.host

theorem hostOf_readAuthority (hh : IsHostText h) (hback : Begins (endsAuthority true) back) :
    Authority.hostOf (readAuthority .web scheme (h ++ back)) = (readHostPort .web scheme h).map Prod.fst := by
  have htext : (h ++ back).takeWhile (!endsAuthority true ·) = h := takeWhile_append_of_begins hh.stays hback
  unfold readAuthority
  simp only [Kind.isSpecial, htext, splitLastAt_of_not_mem hh.at_not_mem, readHostPort_append hh.stays hback]
  cases readHostPort .web scheme h with
  | error fault => rfl
  | ok read => rfl

theorem hostOf_readAuthority_at (hh : IsHostText h) (huser : ∀ c ∈ user, endsAuthority true c = false)
    (hback : Begins (endsAuthority true) back) :
    Authority.hostOf (readAuthority .web scheme (user ++ '@' :: h ++ back)) =
      (readHostPort .web scheme h).map Prod.fst := by
  have hfront : ∀ c ∈ user ++ '@' :: h, endsAuthority true c = false :=
    List.forall_mem_append.mpr ⟨huser, List.forall_mem_cons.mpr ⟨by decide, hh.stays⟩⟩
  have htext := takeWhile_append_of_begins hfront hback
  have hpath := dropWhile_append_of_begins hfront hback
  have hne : h.isEmpty = false := by simpa using hh.ne_nil
  unfold readAuthority
  simp only [Kind.isSpecial, htext, hpath, splitLastAt_append hh.at_not_mem, hne, Bool.and_false,
    Bool.false_and, Bool.false_eq_true, if_false, readHostPort_append hh.stays hback]
  cases hread : readHostPort .web scheme h with
  | error fault => rfl
  | ok read =>
      have hhost : read.1 ≠ .domain [] := readHostPort_ne_empty hread
      dsimp only [bind, Except.bind, Except.map]
      rw [decide_eq_false hhost]
      rfl

end Userinfo

def unbroken (s : List Char) : List Char := s.filter fun c => c != '\t' && c != '\n' && c != '\r'

def trimEnd (s : List Char) : List Char := (s.reverse.dropWhile isEdge).reverse

section Clean
variable {h back : List Char}

theorem isEdge_of_endsAuthority {c : Char} (hc : endsAuthority true c = true) :
    isEdge c = false ∧ (c != '\t' && c != '\n' && c != '\r') = true := by
  rw [endsAuthority_eq_true] at hc
  simp only [List.mem_cons, List.not_mem_nil, or_false] at hc
  rcases hc with rfl | rfl | rfl | rfl
  all_goals decide

/-- The end is cut off behind a character that is not cut off. -/
theorem trimEnd_append {c : Char} (hc : isEdge c = false) (front back : List Char) :
    trimEnd (front ++ c :: back) = front ++ c :: trimEnd back := by
  have hfront : (c :: front.reverse).dropWhile isEdge = c :: front.reverse :=
    dropWhile_of_begins (by simpa [Begins] using hc)
  rw [trimEnd, trimEnd, List.reverse_append, List.reverse_cons, List.append_assoc, List.singleton_append,
    List.dropWhile_append, hfront]
  split
  · next hempty =>
    rw [List.isEmpty_iff.mp hempty]
    simp
  · simp

theorem unbroken_of_visible (hh : ∀ c ∈ h, isEdge c = false) : unbroken h = h := by
  refine List.filter_eq_self.mpr fun c hc => ?_
  have hedge := hh c hc
  simp only [Bool.and_eq_true, bne_iff_ne]
  refine ⟨⟨?_, ?_⟩, ?_⟩
  all_goals
    rintro rfl
    exact absurd hedge (by decide)

theorem Begins.unbroken_trimEnd (hback : Begins (endsAuthority true) back) :
    Begins (endsAuthority true) (unbroken (trimEnd back)) := by
  cases back with
  | nil => exact hback
  | cons c back =>
      obtain ⟨hedge, hkept⟩ := isEdge_of_endsAuthority (hback c rfl)
      have htrim : trimEnd (c :: back) = c :: trimEnd back := trimEnd_append hedge [] back
      have hkeep : unbroken (c :: trimEnd back) = c :: unbroken (trimEnd back) := List.filter_cons_of_pos hkept
      rw [htrim, hkeep]
      exact hback

theorem unbroken_append (s t : List Char) : unbroken (s ++ t) = unbroken s ++ unbroken t :=
  List.filter_append s t

/-- A host is not touched, and nothing moves across it. -/
theorem clean_http (info : List Char) (hh : IsHostText h) (back : List Char) :
    clean ("http://".toList ++ (info ++ h ++ back)) =
      "http://".toList ++ (unbroken info ++ h ++ unbroken (trimEnd back)) := by
  obtain ⟨init, last, hlast⟩ : ∃ init last, h = init ++ [last] :=
    ⟨_, _, (List.dropLast_concat_getLast hh.ne_nil).symm⟩
  have hedge : isEdge last = false := hh.isEdge_eq_false last (by simp [hlast])
  have hfront : ("http://".toList ++ (info ++ h ++ back)).dropWhile isEdge =
      "http://".toList ++ (info ++ h ++ back) := rfl
  have htrim : trimEnd ("http://".toList ++ (info ++ h ++ back)) =
      "http://".toList ++ (info ++ h ++ trimEnd back) := by
    have := trimEnd_append hedge ("http://".toList ++ info ++ init) back
    simpa only [hlast, List.append_assoc, List.singleton_append] using this
  change unbroken (trimEnd (List.dropWhile isEdge _)) = _
  rw [hfront, htrim, unbroken_append, unbroken_append, unbroken_append, unbroken_of_visible hh.isEdge_eq_false]
  rfl

end Clean

theorem read_http {text s : List Char} (hclean : clean text = "http://".toList ++ s)
    (hs : Begins (!isSlash true ·) s) : read text = readHosted .web "http".toList s := by
  have hscheme : takeScheme ("http://".toList ++ s) = some ("http".toList, "//".toList ++ s) := by
    rfl
  have hslashes : ("//".toList ++ s).dropWhile (isSlash true) = s := dropWhile_of_begins hs
  have hkind : Kind.ofScheme "http".toList = .web := by decide
  simp only [read, hclean, hscheme, hkind, hslashes]

def place (url : Url) : List Char × Option Host := (url.scheme, url.host)

theorem place_readHosted (scheme s : List Char) : (readHosted .web scheme s).map place =
    (Authority.hostOf (readAuthority .web scheme s)).map fun host => (scheme, some host) := by
  rw [readHosted]
  cases readAuthority .web scheme s with
  | error fault => rfl
  | ok read => rfl

section Http
variable {user h back : List Char}

theorem isSlash_of_stays {c : Char} (hc : endsAuthority true c = false) : (!isSlash true c) = true := by
  simp only [endsAuthority, Bool.or_eq_false_iff] at hc
  rw [hc.1.1]
  rfl

theorem place_read_host (hh : IsHostText h) : (read ("http://".toList ++ h)).map place =
    ((readHostPort .web "http".toList h).map Prod.fst).map fun host => ("http".toList, some host) := by
  have hclean : clean ("http://".toList ++ (h ++ [])) = "http://".toList ++ (h ++ []) := clean_http [] hh []
  have hslash : Begins (!isSlash true ·) (h ++ []) :=
    .append (.of_all fun c hc => isSlash_of_stays (hh.stays c hc)) .nil
  have hread := read_http hclean hslash
  rw [← List.append_nil h, hread, place_readHosted, hostOf_readAuthority hh .nil, List.append_nil]

/-- Whatever stands in front of a host and behind it, the host is read as it is read alone. -/
theorem place_read_at (hh : IsHostText h) (huser : ∀ c ∈ user, endsAuthority true c = false)
    (hback : Begins (endsAuthority true) back) :
    (read ("http://".toList ++ (user ++ '@' :: h ++ back))).map place =
      (read ("http://".toList ++ h)).map place := by
  have huser : ∀ c ∈ unbroken user, endsAuthority true c = false :=
    fun c hc => huser c (List.mem_filter.mp hc).1
  have hclean : clean ("http://".toList ++ (user ++ '@' :: h ++ back)) =
      "http://".toList ++ (unbroken user ++ '@' :: h ++ unbroken (trimEnd back)) := by
    have hat : unbroken ['@'] = ['@'] := rfl
    have := clean_http (user ++ ['@']) hh back
    simpa only [unbroken_append, hat, List.append_assoc, List.cons_append, List.nil_append] using this
  have hslash : Begins (!isSlash true ·) (unbroken user ++ '@' :: h ++ unbroken (trimEnd back)) := by
    rw [List.append_assoc]
    exact .append (.of_all fun c hc => isSlash_of_stays (huser c hc)) (.cons rfl _)
  rw [read_http hclean hslash, place_readHosted, hostOf_readAuthority_at hh huser hback.unbroken_trimEnd,
    place_read_host hh]

/-- The host of a URL is the one that its text names. -/
theorem place_read_host_iff (hh : IsHostText h) {found : List Char × Option Host} :
    (read ("http://".toList ++ h)).map place = .ok found ↔
      ∃ host, Names host h ∧ found = ("http".toList, some host) := by
  rw [place_read_host hh, map_eq_ok_iff]
  exact exists_congr fun host => and_congr (readHostPort_iff hh.stays) eq_comm

end Http

end Url
end Passbook
