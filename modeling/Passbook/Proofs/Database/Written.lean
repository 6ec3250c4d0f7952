import Passbook.Proofs.Database.Layout

/-!
# Statements as they are written

A statement names the columns that it stores, sets, compares and gives back, and takes its values from
numbered places. From this follow its text and what it does to the rows of the tables. Rows that are found
are changed one after the other where they stand.

Statements that overwrite a balance, remove rows or add them up, the probe, and those of login sessions,
whose keys are not kept as they are given, are left out.
-/
namespace Passbook

/-- The value in a column, unless it is NULL. -/
def Param.cell? : Param → Option Cell
  | .null => none
  | .int n => some (.int n)
  | .text s => some (.text s)
  | .bool b => some (.bool b)
  | .instant t => some (.int t.micros)

namespace Param

/-- A place, counted from one. -/
def mark (place : Nat) : String := "$" ++ Decimal.text place

/-- The value at a place, unless it is NULL. -/
def cellAt? (params : List Param) (place : Nat) : Option Cell := params[place - 1]?.bind cell?

end Param

/-- What a column is set to. -/
inductive Setting where
  /-- the value at a place, unless it is NULL -/
  | given (place : Nat)
  /-- what it holds, with the value at a place added -/
  | plus (place : Nat)
  | yes

inductive Condition where
  | equals (column : String) (place : Nat)
  | isFalse (column : String)
  | both (first second : Condition)
  | either (first second : Condition)

/-- What is given back of a row. -/
inductive Shown where
  | all
  | only (columns : List String)

/-- How the rows that are found are read. -/
inductive Extent where
  | plain
  /-- each row is held until the transaction ends -/
  | locked (strength : String)
  /-- a section of the rows in the order of a column, with the places of its length and its beginning -/
  | section (order : String) (limit offset : Nat)

inductive Written where
  | insert (table : TableName) (columns : List String)
  | update (table : TableName) (settings : List (String × Setting)) (condition : Condition)
  | select (table : TableName) (condition : Condition) (extent : Extent)

structure Outcome where
  answer : Answer
  /-- the rows that nobody else may change until the transaction ends -/
  held : List Row
  tables : Tables

namespace Setting

def text (column : String) : Setting → String
  | .given place => column ++ " = COALESCE(" ++ Param.mark place ++ ", " ++ column ++ ")"
  | .plus place => column ++ " = " ++ column ++ " + " ++ Param.mark place
  | .yes => column ++ " = true"

def apply (params : List Param) (cell : Cell) : Setting → Cell
  | .given place => (Param.cellAt? params place).getD cell
  | .plus place =>
      match cell, Param.cellAt? params place with
      | .int n, some (.int change) => .int (n + change)
      | _, _ => cell
  | .yes => .bool true

def applyAll (params : List Param) (settings : List (String × Setting)) (row : Row) : Row :=
  row.map fun (column, cell) => (column, ((settings.lookup column).map (apply params cell)).getD cell)

def fit (settings : List (String × Setting)) (row : Row) : Bool :=
  settings.all fun (column, setting) =>
    match setting, row.lookup column with
    | .plus _, some (.int sum) => decide (IsBigint sum)
    | _, _ => true

end Setting

namespace Condition

def text : Condition → String
  | .equals column place => column ++ " = " ++ Param.mark place
  | .isFalse column => column ++ " = false"
  | .both first second => first.text ++ " AND " ++ second.text
  | .either first second => first.text ++ " OR " ++ second.text

/-- Whether a row is found. Nothing equals NULL. -/
def holds (params : List Param) (row : Row) : Condition → Bool
  | .equals column place =>
      match Param.cellAt? params place with
      | some cell => row.lookup column == some cell
      | none => false
  | .isFalse column => row.lookup column == some (.bool false)
  | .both first second => first.holds params row && second.holds params row
  | .either first second => first.holds params row || second.holds params row

end Condition

namespace Shown

def text : Shown → String
  | .all => "*"
  | .only columns => ", ".intercalate columns

def take (row : Row) : Shown → Row
  | .all => row
  | .only columns => columns.filterMap fun column => (row.lookup column).map (column, ·)

/-- What statements give back of the rows of a table. -/
def ofTable : TableName → Shown
  | .users => .only ["username", "hashed_password", "full_name", "email", "password_changed_at",
      "is_email_verified", "created_at"]
  | .accounts => .only ["id", "owner", "balance", "currency", "created_at"]
  | .entries => .only ["id", "account_id", "amount", "created_at"]
  | .transfers => .only ["id", "from_account_id", "to_account_id", "amount", "created_at"]
  | .sessions | .verifications => .all

end Shown

namespace Extent

def text : Extent → String
  | .plain => ""
  | .locked strength => " FOR " ++ strength
  | .section order limit offset =>
      " ORDER BY " ++ order ++ " LIMIT " ++ Param.mark limit ++ " OFFSET " ++ Param.mark offset

/-- The number of rows at a place, or none for NULL. -/
def count? (params : List Param) (place : Nat) (refusal : Refusal) : Except Refusal (Option Nat) :=
  match Param.cellAt? params place with
  | some (.int n) => if n < 0 then .error refusal else .ok (some n.toNat)
  | _ => .ok none

def precedes (order : String) (row other : Row) : Bool :=
  match row.lookup order, other.lookup order with
  | some (.int n), some (.int m) => n ≤ m
  | _, _ => true

/-- The rows that are read of those that are found, and those that are held. -/
def read (params : List Param) (found : List Row) : Extent → Except Refusal (List Row × List Row)
  | .plain => .ok (found, [])
  | .locked _ => .ok (found, found)
  | .section order limit offset => do
      let limit? ← count? params limit .negativeLimit
      let offset? ← count? params offset .negativeOffset
      let rest := (found.mergeSort (precedes order)).drop (offset?.getD 0)
      return (limit?.elim rest rest.take, [])

end Extent

namespace Written

def text : Written → String
  | .insert table columns =>
      "INSERT INTO " ++ table.text ++ " (" ++ ", ".intercalate columns ++ ") VALUES (" ++
        ", ".intercalate ((List.range columns.length).map fun i => Param.mark (i + 1)) ++ ") RETURNING " ++
        (Shown.ofTable table).text
  | .update table settings condition =>
      "UPDATE " ++ table.text ++ " SET " ++
        ", ".intercalate (settings.map fun (column, setting) => setting.text column) ++ " WHERE " ++
        condition.text ++ " RETURNING " ++ (Shown.ofTable table).text
  | .select table condition extent =>
      "SELECT " ++ (Shown.ofTable table).text ++ " FROM " ++ table.text ++ " WHERE " ++ condition.text ++
        extent.text

/-- A new row, in which some columns are given in order. -/
def newRow (table : TableName) (columns : List String) (params : List Param) (stamp : Stamp) : Row :=
  table.columns.filterMap fun column =>
    (match columns.idxOf? column.name with
      | some i => Param.cellAt? params (i + 1)
      | none => column.preset? stamp).map (column.name, ·)

/-- The rows that are found, as they become one after the other, and all rows afterwards. -/
def amend (holds : Row → Bool) (set : Row → Row) (refusal? : List Row → Row → Option Refusal) :
    List Row → List Row → Except Refusal (List Row × List Row)
  | done, [] => .ok ([], done)
  | done, row :: rest =>
      if holds row then
        match refusal? (done ++ rest) (set row) with
        | some refusal => .error refusal
        | none => do
            let (amended, after) ← amend holds set refusal? (done ++ [set row]) rest
            return (set row :: amended, after)
      else amend holds set refusal? (done ++ [row]) rest

/-- Why a row with these settings is refused beside the others of its table. -/
def updateRefusal? (table : TableName) (settings : List (String × Setting)) (tables : Tables)
    (others : List Row) (row : Row) : Option Refusal :=
  if Setting.fit settings row then
    table.firstBroken tables others row (table.tested (settings.map (·.1)))
  else some .outOfRange

def run (tables : Tables) (stamp : Stamp) (params : List Param) : Written → Except Refusal Outcome
  | .insert table columns =>
      let row := newRow table columns params stamp
      match table.firstBroken tables (tables table) row (table.tested (table.columns.map Column.name)) with
      | some refusal => .error refusal
      | none => .ok
          { answer := ⟨[(Shown.ofTable table).take row], 1⟩
            held := [row]
            tables := Function.update tables table (tables table ++ [row]) }
  | .update table settings condition => do
      let (amended, after) ← amend (condition.holds params) (Setting.applyAll params settings)
        (updateRefusal? table settings tables) [] (tables table)
      return {
        answer := ⟨amended.map (Shown.ofTable table).take, amended.length⟩
        held := amended
        tables := Function.update tables table after }
  | .select table condition extent => do
      let (found, held) ← extent.read params ((tables table).filter (condition.holds params))
      return { answer := ⟨found.map (Shown.ofTable table).take, 0⟩, held, tables }

end Written

namespace Statement

/-- A statement as it is written, if it is one that is told here. -/
def written? : Statement → Option Written
  | .insertAccount .. => some (.insert .accounts ["owner", "balance", "currency"])
  | .selectAccount _ => some (.select .accounts (.equals "id" 1) .plain)
  | .lockAccount _ => some (.select .accounts (.equals "id" 1) (.locked "NO KEY UPDATE"))
  | .selectAccounts .. => some (.select .accounts (.equals "owner" 1) (.section "id" 2 3))
  | .addBalance _ => some (.update .accounts [("balance", .plus 2)] (.equals "id" 1))
  | .insertEntry .. => some (.insert .entries ["account_id", "amount"])
  | .selectEntry _ => some (.select .entries (.equals "id" 1) .plain)
  | .selectEntries .. => some (.select .entries (.equals "account_id" 1) (.section "id" 2 3))
  | .insertTransfer _ =>
      some (.insert .transfers ["from_account_id", "to_account_id", "amount"])
  | .selectTransfer _ => some (.select .transfers (.equals "id" 1) .plain)
  | .selectTransfers .. =>
      some (.select .transfers (.either (.equals "from_account_id" 1) (.equals "to_account_id" 2))
        (.section "id" 3 4))
  | .insertUser _ => some (.insert .users ["username", "hashed_password", "full_name", "email"])
  | .selectUser _ => some (.select .users (.equals "username" 1) .plain)
  | .updateUser _ =>
      some (.update .users [("hashed_password", .given 2), ("password_changed_at", .given 3),
        ("full_name", .given 4), ("email", .given 5), ("is_email_verified", .given 6)]
        (.equals "username" 1))
  | .insertVerification _ => some (.insert .verifications ["username", "email", "secret_code"])
  | .lockVerification _ => some (.select .verifications (.equals "id" 1) (.locked "UPDATE"))
  | .useVerification _ =>
      some (.update .verifications [("is_used", .yes)] (.both (.equals "id" 1) (.isFalse "is_used")))
  | .setBalance .. | .deleteAccount _ | .sumEntries _ | .insertSession _ | .selectSession _ | .probe => none

theorem text_written {statement : Statement} {written : Written} (h : statement.written? = some written) :
    statement.text = written.text := by
  cases statement <;> cases h <;> dsimp only [text] <;> decide +kernel

end Statement

end Passbook
