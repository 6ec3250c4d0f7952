import Passbook.Settings.Environment
import Passbook.Unicode.Alphabetic
import Passbook.Unicode.Blank
import Passbook.Unicode.Numeric

/-!
# Environment files

A file that defines variables line by line, as `NAME=value`. A value may be quoted, weakly or
strongly, in which case it can go over several lines; a number sign behind a blank begins a comment;
a dollar sign outside strong quotes refers to another variable. A variable that is set already keeps
its value. Reading stops at the first line that is wrong, and what was defined before it stays. A value
with a null character cannot be set: it spoils the whole file.
-/
namespace Passbook.EnvFile

/-- Where the reader of a line stands. -/
inductive LineState where
  | plain
  | blank
  | escaped
  | weak
  | weakEscaped
  | strong
  | strongEscaped
deriving DecidableEq, Repr

/-- The state behind character `c`, or `none` if a comment begins there. -/
def LineState.next (state : LineState) (c : Char) : Option LineState :=
  let opened : LineState :=
    if c = '\\' then .escaped else if c = '"' then .weak else if c = '\'' then .strong else .plain
  match state with
  | .blank => if c = '#' then none else some opened
  | .plain =>
      if Unicode.isBlank c && c != '\n' && c != '\r' then some .blank else some opened
  | .escaped => some .plain
  | .weak => some (if c = '\\' then .weakEscaped else if c = '"' then .plain else .weak)
  | .weakEscaped => some .weak
  | .strong => some (if c = '\\' then .strongEscaped else if c = '\'' then .plain else .strong)
  | .strongEscaped => some .strong

/-- The part of a line in front of a comment, and the state at the end, or `none` behind a comment. -/
def scan (state : LineState) : List Char → List Char × Option LineState
  | [] => ([], some state)
  | c :: rest =>
      match state.next c with
      | none => ([], none)
      | some state =>
          let (kept, stop) := scan state rest
          (c :: kept, stop)

def physicalLines : List Char → List (List Char)
  | [] => []
  | c :: rest =>
      if c = '\n' then [c] :: physicalLines rest
      else
        match physicalLines rest with
        | [] => [[c]]
        | line :: more => (c :: line) :: more

def chomp (line : List Char) : List Char :=
  match line.reverse with
  | '\n' :: '\r' :: front => front.reverse
  | '\n' :: front => front.reverse
  | _ => line

def isComment (line : List Char) : Bool :=
  (line.dropWhile Unicode.isBlank).head? == some '#'

/-- Joins lines as long as quotes are open. A quote that is never closed, and a blank at the end of
the file, are faults, shown as `none`. -/
def logicalLines (state : LineState) (front : List Char) :
    List (List Char) → List (Option (List Char))
  | [] => if state = .plain then [] else [none]
  | line :: rest =>
      if isComment (front ++ line) then logicalLines .plain [] rest
      else
        match scan state line with
        | (kept, none) => some (front ++ kept) :: logicalLines .plain [] rest
        | (_, some .plain) => some (chomp (front ++ line)) :: logicalLines .plain [] rest
        | (_, some state) => logicalLines state (front ++ line) rest

/-- Where the reader of a value stands. -/
inductive ValueState where
  | plain
  | weak
  | strong
  /-- behind a backslash, and whether inside weak quotes -/
  | escaped (weak : Bool)
  /-- in a name behind a dollar sign -/
  | name (weak : Bool) (name : List Char)
  /-- in a name between braces -/
  | braced (weak : Bool) (name : List Char)
  /-- behind a blank that ends the value -/
  | ended
deriving DecidableEq, Repr

/-- The state outside or inside weak quotes. -/
def ValueState.outer (weak : Bool) : ValueState := if weak then .weak else .plain

def isNameChar (c : Char) : Bool := Unicode.isAlphabetic c || Unicode.isNumeric c

/-- Reads the rest of a value behind `output`. `value` gives the values of other variables. -/
def readValue (value : List Char → List Char) (state : ValueState) (output : List Char) :
    List Char → Option (List Char)
  | [] =>
      match state with
      | .weak | .strong | .braced .. | .escaped true | .name true _ => none
      | .name false name => some (output ++ value name)
      | .plain | .escaped false | .ended => some output
  | c :: rest =>
      match state with
      | .ended =>
          if c = ' ' ∨ c = '\t' then readValue value .ended output rest
          else if c = '#' then some output
          else none
      | .escaped weak =>
          if c = '\\' ∨ c = '\'' ∨ c = '"' ∨ c = '$' ∨ c = ' ' then
            readValue value (.outer weak) (output ++ [c]) rest
          else if c = 'n' then readValue value (.outer weak) (output ++ ['\n']) rest
          else none
      | .strong =>
          if c = '\'' then readValue value .plain output rest
          else readValue value .strong (output ++ [c]) rest
      | .name weak name =>
          if isNameChar c then readValue value (.name weak (name ++ [c])) output rest
          else if c = '\x7b' && name.isEmpty then readValue value (.braced weak []) output rest
          else if c = '$' then readValue value (.name weak []) (output ++ value name) rest
          else readValue value (.outer weak) (output ++ value name ++ [c]) rest
      | .braced weak name =>
          if c = '\x7d' then readValue value (.outer weak) (output ++ value name) rest
          else readValue value (.braced weak (name ++ [c])) output rest
      | .weak =>
          if c = '$' then readValue value (.name true []) output rest
          else if c = '"' then readValue value .plain output rest
          else if c = '\\' then readValue value (.escaped true) output rest
          else readValue value .weak (output ++ [c]) rest
      | .plain =>
          if c = '$' then readValue value (.name false []) output rest
          else if c = '\'' then readValue value .strong output rest
          else if c = '"' then readValue value .weak output rest
          else if c = '\\' then readValue value (.escaped false) output rest
          else if c = ' ' ∨ c = '\t' then readValue value .ended output rest
          else readValue value .plain (output ++ [c]) rest

/-- A name at the front of a line, and what follows it. -/
def takeName (line : List Char) : Option (List Char × List Char) :=
  match line with
  | [] => none
  | c :: _ =>
      if c.isAlpha || c == '_' then
        some (line.span fun c => c.isAlphanum || c == '_' || c == '.')
      else none

def skipBlanks (line : List Char) : List Char := line.dropWhile Unicode.isBlank

/-- The name that a line defines and the text of its value. The word `export` in front is skipped,
but may itself be a name. -/
def takeDefinition (line : List Char) : Option (List Char × List Char) := do
  let (name, rest) ← takeName line
  match skipBlanks rest with
  | '=' :: rest => pure (name, skipBlanks rest)
  | rest =>
      if name = "export".toList then
        let (name, rest) ← takeName rest
        match skipBlanks rest with
        | '=' :: rest => pure (name, skipBlanks rest)
        | _ => none
      else none

inductive Line where
  | wrong
  | nothing
  | definition (name value : List Char)
deriving DecidableEq, Repr

/-- Reads a line. `value` gives the values of other variables. -/
def readLine (value : List Char → List Char) (line : List Char) : Line :=
  let trimmed := (line.reverse.dropWhile Unicode.isBlank).reverse
  let text := skipBlanks trimmed
  if text.isEmpty || text.head? == some '#' then .nothing
  else
    match takeDefinition text with
    | none => .wrong
    | some (name, rest) =>
        if rest.isEmpty || rest.head? == some '#' then .definition name []
        else
          match readValue value .plain [] rest with
          | none => .wrong
          | some value => .definition name value

/-- A definition whose value no variable can hold. -/
structure Unsettable where
  name : List Char
  value : List Char
deriving DecidableEq, Repr

/-- What lines have defined so far: the environment, and the values given in the file itself. -/
structure Loaded where
  environment : Environment
  defined : Environment

namespace Loaded

/-- The value that a reference stands for. The environment comes before the file. -/
def value (loaded : Loaded) (name : List Char) : List Char :=
  match loaded.environment.lookup name with
  | some value => value
  | none => (loaded.defined.lookup name).getD []

/-- Defines a variable, which keeps an earlier value in the environment. -/
def define (loaded : Loaded) (name value : List Char) : Except Unsettable Loaded :=
  let defined := loaded.defined.set name value
  match loaded.environment.lookup name with
  | some _ => .ok { loaded with defined }
  | none =>
      if '\x00' ∈ value then .error ⟨name, value⟩
      else .ok ⟨loaded.environment.set name value, defined⟩

/-- Takes lines in up to the first that is wrong. -/
def addLines (loaded : Loaded) : List (Option (List Char)) → Except Unsettable Loaded
  | [] => .ok loaded
  | none :: _ => .ok loaded
  | some line :: rest =>
      match readLine loaded.value line with
      | .wrong => .ok loaded
      | .nothing => loaded.addLines rest
      | .definition name value =>
          match loaded.define name value with
          | .error definition => .error definition
          | .ok loaded => loaded.addLines rest

end Loaded

/-- A file may begin with a mark for its byte order. -/
def dropMark : List Char → List Char
  | [] => []
  | c :: rest => if c.toNat = 0xfeff then rest else c :: rest

/-- The lines of a file with this text, those with open quotes joined. -/
def lines (text : List Char) : List (Option (List Char)) :=
  logicalLines .plain [] (physicalLines (dropMark text))

/-- The environment after a file with this text was loaded into it. -/
def load (environment : Environment) (text : List Char) : Except Unsettable Environment :=
  match Loaded.addLines ⟨environment, []⟩ (lines text) with
  | .error definition => .error definition
  | .ok loaded => .ok loaded.environment

end Passbook.EnvFile
