import Passbook.Url.Basic

/-!
# Reading URLs

An absolute URL is read the way browsers do. Blanks and control characters around the text are cut
off, tabs and line ends inside are skipped, and in the well-known schemes backslashes count as
slashes and any number of slashes may stand in front of the host. A host is looked for behind the
last `@` in front of the path. Dot segments are resolved while the path is read.
-/
namespace Passbook.Url

/-- Three kinds of schemes that are read differently. -/
inductive Kind where
  | web
  | file
  | other
deriving DecidableEq, Repr

def Kind.ofScheme (scheme : List Char) : Kind :=
  if scheme = "file".toList then .file
  else if (defaultPort? scheme).isSome then .web
  else .other

/-- Whether backslashes count as slashes. -/
def Kind.isSpecial : Kind → Bool
  | .other => false
  | _ => true

def isEdge (c : Char) : Bool := c.toNat ≤ 32

/-- Without blanks and control characters around it, and without tabs and line ends inside. -/
def clean (input : List Char) : List Char :=
  let front := input.dropWhile isEdge
  let trimmed := (front.reverse.dropWhile isEdge).reverse
  trimmed.filter fun c => c != '\t' && c != '\n' && c != '\r'

def isSchemeChar (c : Char) : Bool :=
  c.isAlphanum || c == '+' || c == '-' || c == '.'

/-- The scheme in small letters, and what is behind its colon. -/
def takeScheme (s : List Char) : Option (List Char × List Char) :=
  match s with
  | [] => none
  | c :: _ =>
      if c.isAlpha then
        match s.dropWhile isSchemeChar with
        | ':' :: rest => some ((s.takeWhile isSchemeChar).map Char.toLower, rest)
        | _ => none
      else none

def isSlash (special : Bool) (c : Char) : Bool := c == '/' || (special && c == '\\')

/-- Whether a character ends the part in front of the path. -/
def endsAuthority (special : Bool) (c : Char) : Bool :=
  isSlash special c || c == '?' || c == '#'

/-- Characters that are escaped in a fragment. -/
def inFragmentSet (b : UInt8) : Bool :=
  Host.isControl b || " \"<>\x60".toList.contains (Char.ofNat b.toNat)

/-- Characters that are escaped in a path. -/
def inPathSet (b : UInt8) : Bool :=
  inFragmentSet b || "#?\x7b\x7d".toList.contains (Char.ofNat b.toNat)

/-- Characters that are escaped in a name or a password. -/
def inUserinfoSet (b : UInt8) : Bool :=
  inPathSet b || "/:;=@[\\]^|".toList.contains (Char.ofNat b.toNat)

/-- Characters that are escaped in a query. -/
def inQuerySet (special : Bool) (b : UInt8) : Bool :=
  Host.isControl b || " \"#<>".toList.contains (Char.ofNat b.toNat) || (special && b == 0x27)

def escape (special : UInt8 → Bool) (s : List Char) : List Char :=
  Percent.encode special (Utf8.encode s)

/-- The parts in front of and behind the last `@`, if there is one. -/
def splitLastAt (s : List Char) : Option (List Char × List Char) :=
  if s.contains '@' then
    let back := s.reverse.takeWhile (· != '@')
    some (s.take (s.length - back.length - 1), back.reverse)
  else none

/-- The length of the host: up to a colon outside brackets or to the end of the authority. -/
def hostLength (special : Bool) : Bool → List Char → Nat
  | _, [] => 0
  | inside, c :: rest =>
      if (c == ':' && !inside) || endsAuthority special c then 0
      else hostLength special (c == '[' || (inside && c != ']')) rest + 1

/-- The port at the front of `s` and what follows it. It has to end where the path can begin. -/
def takePort (value : Nat) (seen : Bool) : List Char → Except UrlFault (Option Nat × List Char)
  | [] => .ok (if seen then some value else none, [])
  | c :: rest =>
      match Decimal.digit? c with
      | some d =>
          let value := value * 10 + d
          if 65535 < value then .error .invalidPort else takePort value true rest
      | none =>
          if endsAuthority true c then .ok (if seen then some value else none, c :: rest)
          else .error .invalidPort

/-- What is read between the scheme and the path. -/
structure Authority where
  username : List Char := []
  password : List Char := []
  host : Host
  port : Option Nat := none

/-- The name and the password at the front of an authority. -/
def readUserinfo (s : List Char) : List Char × List Char :=
  let (username, password) := Split.first ':' s
  (escape inUserinfoSet username, escape inUserinfoSet password)

/-- Reads the host and the port at the front of `s`. -/
def readHostPort (kind : Kind) (scheme : List Char) (s : List Char) :
    Except UrlFault (Host × Option Nat × List Char) := do
  let special := kind.isSpecial
  let length := hostLength special false s
  let text := s.take length
  let rest := s.drop length
  if special && text.isEmpty then throw .emptyHost
  let host ← if special then Host.read text else Host.readPlain text
  match rest with
  | ':' :: digits =>
      if host = .domain [] then throw .emptyHost
      let (port, rest) ← takePort 0 false digits
      pure (host, if port = defaultPort? scheme then none else port, rest)
  | _ => pure (host, none, rest)

def readAuthority (kind : Kind) (scheme : List Char) (s : List Char) :
    Except UrlFault (Authority × List Char) := do
  let special := kind.isSpecial
  let text := s.takeWhile (!endsAuthority special ·)
  let path := s.dropWhile (!endsAuthority special ·)
  match splitLastAt text with
  | none =>
      let (host, port, rest) ← readHostPort kind scheme s
      pure ({ host, port }, rest)
  | some (userinfo, hostPort) =>
      if userinfo.isEmpty && hostPort.isEmpty && !path.isEmpty then throw .emptyHost
      let (username, password) := readUserinfo userinfo
      let (host, port, rest) ← readHostPort kind scheme (hostPort ++ path)
      if host = .domain [] && !(username.isEmpty && password.isEmpty) then throw .emptyHost
      pure ({ username, password, host, port }, rest)

def isSingleDot (segment : List Char) : Bool :=
  segment = ['.'] || segment.map Char.toLower = "%2e".toList

def isDoubleDot (segment : List Char) : Bool :=
  let lower := segment.map Char.toLower
  lower = "..".toList || lower = ".%2e".toList || lower = "%2e.".toList || lower = "%2e%2e".toList

/-- A letter with a colon or a bar behind it. -/
def isDriveLetter (segment : List Char) : Bool :=
  match segment with
  | [c, d] => c.isAlpha && (d == ':' || d == '|')
  | _ => false

def isPlainDriveLetter (segment : List Char) : Bool :=
  match segment with
  | [c, ':'] => c.isAlpha
  | _ => false

/-- Removes the last segment. The drive letter of a file stays. -/
def shorten (kind : Kind) (segments : List (List Char)) : List (List Char) :=
  match kind, segments with
  | .file, [drive] => if isPlainDriveLetter drive then [drive] else []
  | _, _ => segments.dropLast

/-- Resolves the pieces of a path one by one, behind the segments `done`. A dot segment at the end
leaves an empty one. -/
def resolve (kind : Kind) (done : List (List Char)) : List (List Char) → List (List Char)
  | [] => done
  | piece :: rest =>
      let atEnd := rest.isEmpty
      let next :=
        if isDoubleDot piece then
          let above := shorten kind done
          if atEnd then above ++ [[]] else above
        else if isSingleDot piece then
          if atEnd then done ++ [[]] else done
        else if kind = .file && done.isEmpty && isDriveLetter piece then
          [piece.take 1 ++ [':']]
        else done ++ [escape inPathSet piece]
      resolve kind next rest

/-- Splits a path at its slashes. -/
def pieces (special : Bool) : List Char → List (List Char)
  | [] => [[]]
  | c :: rest =>
      if isSlash special c then [] :: pieces special rest
      else
        match pieces special rest with
        | [] => [[c]]
        | piece :: more => (c :: piece) :: more

/-- Files have no empty segments in front of others. -/
def dropEmptyFront : List (List Char) → List (List Char)
  | [] :: next :: rest => dropEmptyFront (next :: rest)
  | segments => segments

/-- The segments of a path. A path in one of the well-known schemes has one segment at least. -/
def readPath (kind : Kind) (text : List Char) : List (List Char) :=
  let special := kind.isSpecial
  match text with
  | [] => if special then [[]] else []
  | c :: rest =>
      let body := if isSlash special c then rest else text
      let segments := resolve kind [] (pieces special body)
      if kind = .file then dropEmptyFront segments else segments

/-- The query and the fragment at the end. -/
def readEnd (special : Bool) (s : List Char) : Option (List Char) × Option (List Char) :=
  let fragmentOf (t : List Char) : Option (List Char) :=
    match t with
    | '#' :: fragment => some (escape inFragmentSet fragment)
    | _ => none
  match s with
  | '?' :: rest =>
      (some (escape (inQuerySet special) (rest.takeWhile (· != '#'))),
        fragmentOf (rest.dropWhile (· != '#')))
  | _ => (none, fragmentOf s)

def endsPath (c : Char) : Bool := c == '?' || c == '#'

/-- Reads the path, the query and the fragment of a URL whose front is known. -/
def readTail (kind : Kind) (front : UrlPath → Url) (s : List Char) : Url :=
  let (query, fragment) := readEnd kind.isSpecial (s.dropWhile (!endsPath ·))
  { front (.segments (readPath kind (s.takeWhile (!endsPath ·)))) with query, fragment }

def readHosted (kind : Kind) (scheme : List Char) (s : List Char) : Except UrlFault Url := do
  let (authority, rest) ← readAuthority kind scheme s
  pure (readTail kind
    (fun path => {
      scheme
      username := authority.username
      password := authority.password
      host := some authority.host
      port := authority.port
      path }) rest)

/-- Reads a URL of a file. It always has a host, which is empty for files of this machine. -/
def readFile (scheme : List Char) (s : List Char) : Except UrlFault Url := do
  let here (rest : List Char) : Url :=
    readTail .file (fun path => { scheme, host := some (.domain []), path }) rest
  match s with
  | a :: b :: rest =>
      if isSlash true a && isSlash true b then
        let text := rest.takeWhile (!endsAuthority true ·)
        let path := rest.dropWhile (!endsAuthority true ·)
        if isDriveLetter text then pure (here rest)
        else if text.isEmpty then pure (here path)
        else
          let host ← Host.read text
          let host := if host = .domain "localhost".toList then Host.domain [] else host
          let url := readTail .file (fun path => { scheme, host := some host, path }) path
          match url.path with
          | .segments (drive :: _) =>
              pure (if isPlainDriveLetter drive then { url with host := some (.domain []) } else url)
          | _ => pure url
      else pure (here s)
  | _ => pure (here s)

/-- Reads a URL without a host, whose path is plain if it does not begin with a slash. -/
def readPlain (scheme : List Char) (s : List Char) : Url :=
  match s with
  | '/' :: _ => readTail .other (fun path => { scheme, path }) s
  | _ =>
      let (query, fragment) := readEnd false (s.dropWhile (!endsPath ·))
      { scheme
        path := .plain (escape Host.isControl (s.takeWhile (!endsPath ·)))
        query, fragment }

/-- Reads an absolute URL. -/
def read (input : List Char) : Except UrlFault Url :=
  match takeScheme (clean input) with
  | none => .error .relativeWithoutBase
  | some (scheme, rest) =>
      match Kind.ofScheme scheme with
      | .web => readHosted .web scheme (rest.dropWhile (isSlash true))
      | .file => readFile scheme rest
      | .other =>
          match rest with
          | '/' :: '/' :: behind => readHosted .other scheme behind
          | _ => .ok (readPlain scheme rest)

end Passbook.Url
