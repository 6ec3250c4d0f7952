import Passbook.Settings.EnvFile
import Passbook.Text.Decimal
import Passbook.Text.Quoted

/-!
# Settings

The settings of the ledger come from the environment. The name of a variable may be written in any
case. Variables are looked at in their order, so the first fault in that order is the one reported;
that a setting is missing is found out last.
-/
namespace Passbook

structure Settings where
  databaseUrl : List Char
  serverPort : Int
  maxConnections : Int
  /-- in milliseconds -/
  transactionLimit : Int
  queueCapacity : Int
  /-- in milliseconds -/
  taskDelay : Int
  verifyUrlBase : List Char
  relayUrl : Option (List Char)
  relaySecret : Option (List Char)
deriving DecidableEq, Repr

inductive SettingsFault where
  | missing (name : String)
  | duplicate (name : String)
  | badInteger (fault : IntegerFault) (name value : List Char)
  | unsettable (definition : EnvFile.Unsettable)
deriving DecidableEq, Repr

def SettingsFault.message : SettingsFault → String
  | .missing name => name
  | .duplicate name => "duplicate field \x60" ++ name ++ "\x60"
  | .badInteger fault name value =>
      fault.message ++ " while parsing value '" ++ String.ofList value ++ "' provided by " ++
        String.ofList name
  | .unsettable ⟨name, value⟩ =>
      "failed to set environment variable \x60" ++ String.ofList (Quoted.echo name) ++ "\x60 to \x60" ++
        String.ofList (Quoted.echo value) ++ "\x60: file name contained an unexpected NUL byte"

namespace Settings

/-- The settings by the names of their variables. -/
inductive Key where
  | databaseUrl
  | serverPort
  | maxConnections
  | transactionLimit
  | queueCapacity
  | taskDelay
  | verifyUrlBase
  | relayUrl
  | relaySecret
deriving DecidableEq, Repr

namespace Key

def all : List Key := [
  .databaseUrl, .serverPort, .maxConnections, .transactionLimit, .queueCapacity, .taskDelay,
  .verifyUrlBase, .relayUrl, .relaySecret]

def name : Key → String
  | .databaseUrl => "database_url"
  | .serverPort => "server_port"
  | .maxConnections => "max_connections"
  | .transactionLimit => "tx_timeout_ms"
  | .queueCapacity => "task_queue_capacity"
  | .taskDelay => "task_delay_ms"
  | .verifyUrlBase => "verify_email_base_url"
  | .relayUrl => "mail_relay_url"
  | .relaySecret => "mail_relay_secret"

/-- The integers that a setting can be, if it is one. -/
def range? : Key → Option IntegerRange
  | .serverPort => some .unsigned16
  | .maxConnections => some .unsigned32
  | .transactionLimit => some .unsigned64
  | .queueCapacity => some .unsigned64
  | .taskDelay => some .unsigned64
  | _ => none

/-- The small letter of a character, for the characters that have one in ASCII. -/
def lowered (c : Char) : Char := if c.toNat = 0x212a then 'k' else c.toLower

/-- The setting that a variable is for. -/
def ofName? (name : List Char) : Option Key :=
  all.find? fun key => key.name.toList == name.map lowered

end Key

inductive Value where
  | text (s : List Char)
  | int (n : Int)
deriving DecidableEq, Repr

/-- The value that a variable gives to a setting. -/
def readValue (key : Key) (name value : List Char) : Except SettingsFault Value :=
  match key.range? with
  | none => .ok (.text value)
  | some range =>
      match Decimal.read range value with
      | .ok n => .ok (.int n)
      | .error fault => .error (.badInteger fault name value)

/-- Collects the settings that an environment gives. -/
def gather (found : List (Key × Value)) : Environment → Except SettingsFault (List (Key × Value))
  | [] => .ok found
  | (name, value) :: rest =>
      match Key.ofName? name with
      | none => gather found rest
      | some key =>
          if (found.lookup key).isSome then .error (.duplicate key.name)
          else
            match readValue key name value with
            | .error fault => .error fault
            | .ok v => gather ((key, v) :: found) rest

def text? (found : List (Key × Value)) (key : Key) : Option (List Char) :=
  match found.lookup key with
  | some (.text s) => some s
  | _ => none

def int? (found : List (Key × Value)) (key : Key) : Option Int :=
  match found.lookup key with
  | some (.int n) => some n
  | _ => none

/-- The base of links if no other is given. -/
def defaultVerifyUrlBase : String := "http://localhost:3000/api/v1/verify_email"

/-- The settings, with defaults for everything but the URL of the database. -/
def complete (found : List (Key × Value)) : Except SettingsFault Settings :=
  match text? found .databaseUrl with
  | none => .error (.missing Key.databaseUrl.name)
  | some databaseUrl => .ok {
      databaseUrl := databaseUrl
      serverPort := (int? found .serverPort).getD 3000
      maxConnections := (int? found .maxConnections).getD 5
      transactionLimit := (int? found .transactionLimit).getD 10000
      queueCapacity := (int? found .queueCapacity).getD 1024
      taskDelay := (int? found .taskDelay).getD 1000
      verifyUrlBase := (text? found .verifyUrlBase).getD defaultVerifyUrlBase.toList
      relayUrl := text? found .relayUrl
      relaySecret := text? found .relaySecret }

/-- The settings of an environment. -/
def ofEnvironment (environment : Environment) : Except SettingsFault Settings := do
  let found ← gather [] environment
  complete found

/-- The settings of an environment into which an environment file is loaded first, if there is one. -/
def load (environment : Environment) (file : Option (List Char)) : Except SettingsFault Settings :=
  match file with
  | none => ofEnvironment environment
  | some text =>
      match EnvFile.load environment text with
      | .error definition => .error (.unsettable definition)
      | .ok environment => ofEnvironment environment

end Settings
end Passbook
