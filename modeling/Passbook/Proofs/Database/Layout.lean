import Passbook.Proofs.Database.Execute
import Passbook.Store.Migration

/-!
# Tables as they are created

What a row of a table has to keep and what its columns hold unless they are given follow from how the table
is created; so does the text that creates it, which is that of the migrations. A row is nothing but columns
with values. Constraints that concern a column that is set are tested, first the bounds, then what is unique,
then the references.
-/
namespace Passbook

inductive TableName where
  | users
  | accounts
  | entries
  | transfers
  | sessions
  | verifications
deriving DecidableEq, Repr

def TableName.text : TableName → String
  | .users => "users"
  | .accounts => "accounts"
  | .entries => "entries"
  | .transfers => "transfers"
  | .sessions => "sessions"
  | .verifications => "verify_emails"

abbrev Tables : Type := TableName → List Row

/-- What a row has to keep. -/
inductive Constraint where
  | atLeast (column : String) (least : Int)
  | unique (columns : List String)
  | references (column : String) (table : TableName) (key : String)
deriving DecidableEq

inductive ColumnRule where
  | primaryKey
  | unique
  | notNull
  | positive
  | references (table : TableName) (key : String)
  /-- what the column holds in a new row for which it is not given -/
  | preset (text : String) (cell : Stamp → Cell)

structure Column where
  name : String
  type : String
  rules : List ColumnRule

namespace Constraint

def text : Constraint → String
  | .atLeast column least => "CHECK (" ++ column ++ " >= " ++ Decimal.text least ++ ")"
  | .unique columns => "UNIQUE (" ++ ", ".intercalate columns ++ ")"
  | .references column table key =>
      "FOREIGN KEY (" ++ column ++ ") REFERENCES " ++ table.text ++ " (" ++ key ++ ")"

def columns : Constraint → List String
  | .atLeast column _ => [column]
  | .unique columns => columns
  | .references column .. => [column]

/-- Whether a row breaks a constraint beside the other rows of its table. -/
def isBroken (constraint : Constraint) (tables : Tables) (others : List Row) (row : Row) : Bool :=
  match constraint with
  | .atLeast column least =>
      match row.lookup column with
      | some (.int n) => n < least
      | _ => false
  | .unique columns =>
      others.any fun other => columns.all fun column => other.lookup column == row.lookup column
  | .references column table key =>
      !(tables table).any fun other => other.lookup key == row.lookup column

def refusal (table : TableName) (name : String) : Constraint → Refusal
  | .atLeast .. => .check table.text name
  | .unique _ => .unique name
  | .references .. => .foreignKey table.text name

end Constraint

namespace Column

def ruleText (column : String) : ColumnRule → String
  | .primaryKey => "PRIMARY KEY"
  | .unique => "UNIQUE"
  | .notNull => "NOT NULL"
  | .positive => "CHECK (" ++ column ++ " > 0)"
  | .references table key => "REFERENCES " ++ table.text ++ " (" ++ key ++ ")"
  | .preset text _ => "DEFAULT " ++ text

def text (column : Column) : String :=
  " ".intercalate (column.name :: column.type :: column.rules.map (ruleText column.name))

/-- The constraints of the rules of a column, with the names that the database gives them. -/
def constraints (table : TableName) (column : Column) : List (String × Constraint) :=
  column.rules.filterMap fun
    | .primaryKey => some (table.text ++ "_pkey", .unique [column.name])
    | .unique => some (table.text ++ "_" ++ column.name ++ "_key", .unique [column.name])
    | .positive => some (table.text ++ "_" ++ column.name ++ "_check", .atLeast column.name 1)
    | .references target key =>
        some (table.text ++ "_" ++ column.name ++ "_fkey", .references column.name target key)
    | .notNull | .preset .. => none

/-- What a column holds in a new row for which it is not given. -/
def preset? (column : Column) (stamp : Stamp) : Option Cell :=
  if column.type = "BIGSERIAL" then some (.int stamp.id)
  else column.rules.findSome? fun
    | .preset _ cell => some (cell stamp)
    | _ => none

def number : Column := ⟨"id", "BIGSERIAL", [.primaryKey]⟩

def moment (name : String) : Column := ⟨name, "TIMESTAMPTZ", [.notNull, .preset "NOW()" (.int ·.now.micros)]⟩

def given (name type : String) : Column := ⟨name, type, [.notNull]⟩

def flag (name : String) : Column := ⟨name, "BOOLEAN", [.notNull, .preset "false" fun _ => .bool false]⟩

def refers (name type : String) (table : TableName) (key : String) : Column :=
  ⟨name, type, [.notNull, .references table key]⟩

end Column

namespace TableName

def columns : TableName → List Column
  | .users => [⟨"username", "VARCHAR", [.primaryKey]⟩, .given "hashed_password" "VARCHAR",
      .given "full_name" "VARCHAR", ⟨"email", "VARCHAR", [.unique, .notNull]⟩,
      ⟨"password_changed_at", "TIMESTAMPTZ",
        [.notNull, .preset "'0001-01-01 00:00:00Z'" fun _ => .int (-62135596800000000)]⟩,
      .flag "is_email_verified", .moment "created_at"]
  | .accounts => [.number, .refers "owner" "VARCHAR" .users "username", .given "balance" "BIGINT",
      .given "currency" "VARCHAR", .moment "created_at"]
  | .entries => [.number, .refers "account_id" "BIGINT" .accounts "id", .given "amount" "BIGINT",
      .moment "created_at"]
  | .transfers => [.number, .refers "from_account_id" "BIGINT" .accounts "id",
      .refers "to_account_id" "BIGINT" .accounts "id", ⟨"amount", "BIGINT", [.notNull, .positive]⟩,
      .moment "created_at"]
  | .sessions => [⟨"id", "UUID", [.primaryKey]⟩, .refers "username" "VARCHAR" .users "username",
      .given "refresh_token" "VARCHAR", .given "user_agent" "VARCHAR", .given "client_ip" "VARCHAR",
      .flag "is_blocked", .given "expires_at" "TIMESTAMPTZ", .moment "created_at"]
  | .verifications => [.number, .refers "username" "VARCHAR" .users "username", .given "email" "VARCHAR",
      .given "secret_code" "VARCHAR", .flag "is_used", .moment "created_at",
      ⟨"expired_at", "TIMESTAMPTZ", [.notNull, .preset "(NOW() + INTERVAL '15 minutes')"
        fun stamp => .int (stamp.now.micros + 900000000)]⟩]

def constraints : TableName → List (String × Constraint)
  | .accounts => [("owner_currency_key", .unique ["owner", "currency"]),
      (Failure.balanceConstraint, .atLeast "balance" 0)]
  | _ => []

def creation (table : TableName) : String :=
  "CREATE TABLE " ++ table.text ++ " ( " ++ ", ".intercalate (table.columns.map Column.text ++
    table.constraints.map fun (name, constraint) => "CONSTRAINT " ++ name ++ " " ++ constraint.text) ++ " );"

theorem text_initialTables : Migration.initialTables.text =
    creation .users ++ " " ++ creation .accounts ++
      " CREATE INDEX idx_accounts_owner ON accounts (owner); -- Append-only ledger lines " ++
      creation .entries ++ " CREATE INDEX idx_entries_account_id ON entries (account_id); " ++
      creation .transfers ++
      " CREATE INDEX idx_transfers_from_account_id ON transfers (from_account_id); " ++
      "CREATE INDEX idx_transfers_to_account_id ON transfers (to_account_id); " ++
      "CREATE INDEX idx_transfers_pair ON transfers (from_account_id, to_account_id);" := by
  decide +kernel

theorem text_sessionTables :
    Migration.sessionTables.text = creation .sessions ++ " " ++ creation .verifications := by
  decide +kernel

/-- The constraints that concern these columns, in the order in which they are tested. -/
def tested (table : TableName) (columns : List String) : List (String × Constraint) :=
  let all := table.columns.flatMap (Column.constraints table) ++ table.constraints
  let concerned := all.filter fun (_, constraint) => constraint.columns.any columns.contains
  concerned.filter (fun (_, constraint) => constraint matches .atLeast ..) ++
    concerned.filter (fun (_, constraint) => constraint matches .unique _) ++
    concerned.filter (fun (_, constraint) => constraint matches .references ..)

/-- Why a row is refused beside the others of its table. -/
def firstBroken (table : TableName) (tables : Tables) (others : List Row) (row : Row) :
    List (String × Constraint) → Option Refusal
  | [] => none
  | (name, constraint) :: rest =>
      if constraint.isBroken tables others row then some (constraint.refusal table name)
      else table.firstBroken tables others row rest

end TableName

end Passbook
