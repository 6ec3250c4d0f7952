import Passbook.Proofs.Database.Layout

/-!
# Records as rows of columns

Read as rows, the tables hold for each key the one row that it fits, or none. A record that is put comes
behind the rows of its table if its key is new, and otherwise takes the place of the row that its key fits.
-/
namespace Passbook

namespace Key

def table : Key → TableName
  | .user _ => .users
  | .account _ => .accounts
  | .entry _ => .entries
  | .transfer _ => .transfers
  | .session _ => .sessions
  | .verification _ => .verifications

def column : Key → String
  | .user _ => "username"
  | _ => "id"

def cell : Key → Cell
  | .user username => .text username
  | .session id => .text id
  | .account id | .entry id | .transfer id | .verification id => .int id

def fits (key : Key) (row : Row) : Bool := row.lookup key.column == some key.cell

end Key

namespace Record

def toRow : Record → Row
  | .user row => row.toRow
  | .account row => row.toRow
  | .entry row => row.toRow
  | .transfer row => row.toRow
  | .session row => row.toRow
  | .verification row => row.toRow

theorem fits_toRow {record : Record} {key : Key} (h : record.key.table = key.table) :
    key.fits record.toRow = decide (record.key = key) := by
  have hcell : record.toRow.lookup key.column = some record.key.cell := by
    cases record <;> cases key <;> first | rfl | cases h
  rw [Key.fits, hcell, Bool.eq_iff_iff, beq_iff_eq, decide_eq_true_eq, Option.some.injEq]
  cases record <;> cases key <;> simp only [Record.key, Key.table, reduceCtorEq] at h <;>
    simp [Key.cell, Record.key]

theorem fits_self (record : Record) : record.key.fits record.toRow = true := by
  rw [fits_toRow rfl, decide_eq_true rfl]

theorem key_user (row : User) (username : String) : (user row).key = .user username ↔ row.username = username :=
  iff_of_eq (Key.user.injEq ..)

theorem key_account (row : Account) (id : Int) : (account row).key = .account id ↔ row.id = id :=
  iff_of_eq (Key.account.injEq ..)

theorem key_entry (row : Entry) (id : Int) : (entry row).key = .entry id ↔ row.id = id :=
  iff_of_eq (Key.entry.injEq ..)

theorem key_transfer (row : Transfer) (id : Int) : (transfer row).key = .transfer id ↔ row.id = id :=
  iff_of_eq (Key.transfer.injEq ..)

theorem key_session (row : LoginSession) (id : String) : (session row).key = .session id ↔ row.id = id :=
  iff_of_eq (Key.session.injEq ..)

theorem key_verification (row : Verification) (id : Int) :
    (verification row).key = .verification id ↔ row.id = id :=
  iff_of_eq (Key.verification.injEq ..)

end Record

namespace Table

variable {κ α : Type} [DecidableEq κ] {keyOf : α → κ} {wrap : α → Record} {wrapKey : κ → Key}

theorem map_filter_key (hkey : ∀ row k, (wrap row).key = wrapKey k ↔ keyOf row = k) (table : Table keyOf)
    (k : κ) :
    ((table.rows.map wrap).filter fun record => record.key = wrapKey k) = ((table.find k).map wrap).toList := by
  have hsame : ∀ row ∈ table.rows, ((fun record => decide (record.key = wrapKey k)) ∘ wrap) row =
      decide (keyOf row = k) := fun row _ => decide_eq_decide.mpr (hkey row k)
  rw [List.filter_map, List.filter_congr hsame, filter_key]
  cases table.find k <;> rfl

theorem map_put_of_new {row : α} {table : Table keyOf} (h : (table.find (keyOf row)).map wrap = none) :
    (table.put row).rows.map wrap = table.rows.map wrap ++ [wrap row] := by
  rw [rows_put_of_new (Option.map_eq_none_iff.mp h), List.map_append, List.map_singleton]

theorem map_put_of_old (hkey : ∀ row k, (wrap row).key = wrapKey k ↔ keyOf row = k) {row : α} {old : Record}
    {table : Table keyOf}
    (h : (table.find (keyOf row)).map wrap = some old) :
    (table.put row).rows.map wrap =
      (table.rows.map wrap).map fun other => if other.key = (wrap row).key then wrap row else other := by
  obtain ⟨row', hfind, -⟩ := Option.map_eq_some_iff.mp h
  rw [rows_put_of_old hfind, List.map_map, List.map_map]
  refine List.map_congr_left fun other _ => ?_
  have hsame : (wrap other).key = (wrap row).key ↔ keyOf other = keyOf row := by
    rw [(hkey row _).mpr rfl, hkey]
  simp only [Function.comp_apply, hsame]
  split <;> rfl

end Table

namespace Database

variable {db : Database} {record : Record}

def records (db : Database) : TableName → List Record
  | .users => db.users.rows.map .user
  | .accounts => db.accounts.rows.map .account
  | .entries => db.entries.rows.map .entry
  | .transfers => db.transfers.rows.map .transfer
  | .sessions => db.sessions.rows.map .session
  | .verifications => db.verifications.rows.map .verification

def tables (db : Database) : Tables := fun table => (db.records table).map Record.toRow

theorem key_table_of_mem {table : TableName} (h : record ∈ db.records table) : record.key.table = table := by
  cases table <;> obtain ⟨row, _, rfl⟩ := List.mem_map.mp h <;> rfl

theorem filter_key (db : Database) (key : Key) :
    ((db.records key.table).filter fun record => record.key = key) = (db.find key).toList := by
  cases key with
  | user username => exact Table.map_filter_key Record.key_user db.users username
  | account id => exact Table.map_filter_key Record.key_account db.accounts id
  | entry id => exact Table.map_filter_key Record.key_entry db.entries id
  | transfer id => exact Table.map_filter_key Record.key_transfer db.transfers id
  | session id => exact Table.map_filter_key Record.key_session db.sessions id
  | verification id => exact Table.map_filter_key Record.key_verification db.verifications id

theorem find_key {key : Key} (h : db.find key = some record) : record.key = key := by
  have hmem : record ∈ (db.records key.table).filter fun record => record.key = key := by
    rw [filter_key, h]
    exact List.mem_singleton_self record
  exact of_decide_eq_true (List.mem_filter.mp hmem).2

theorem fits_of_find {key : Key} (h : db.find key = some record) : key.fits record.toRow = true :=
  find_key h ▸ record.fits_self

theorem records_put_of_new (h : db.find record.key = none) :
    (db.put record).records record.key.table = db.records record.key.table ++ [record] := by
  cases record <;> exact Table.map_put_of_new h

theorem records_put_of_old {old : Record} (h : db.find record.key = some old) :
    (db.put record).records record.key.table =
      (db.records record.key.table).map fun other => if other.key = record.key then record else other := by
  cases record with
  | user row => exact Table.map_put_of_old Record.key_user h
  | account row => exact Table.map_put_of_old Record.key_account h
  | entry row => exact Table.map_put_of_old Record.key_entry h
  | transfer row => exact Table.map_put_of_old Record.key_transfer h
  | session row => exact Table.map_put_of_old Record.key_session h
  | verification row => exact Table.map_put_of_old Record.key_verification h

theorem records_put_of_ne {table : TableName} (h : table ≠ record.key.table) :
    (db.put record).records table = db.records table := by
  cases record <;> cases table <;> first | rfl | exact absurd rfl h

theorem filter_fits (db : Database) (key : Key) :
    (db.tables key.table).filter key.fits = ((db.find key).map Record.toRow).toList := by
  have hfits : ∀ record ∈ db.records key.table, (key.fits ∘ Record.toRow) record = decide (record.key = key) :=
    fun record hrecord => Record.fits_toRow (key_table_of_mem hrecord)
  rw [tables, List.filter_map, List.filter_congr hfits, filter_key]
  cases db.find key <;> rfl

theorem any_fits (db : Database) (key : Key) : (db.tables key.table).any key.fits = (db.find key).isSome := by
  have hfilter := filter_fits db key
  cases hfind : db.find key with
  | none =>
      rw [hfind, Option.map_none, Option.toList_none, List.filter_eq_nil_iff] at hfilter
      rw [Option.isSome_none, List.any_eq_false]
      exact hfilter
  | some record =>
      have hmem : record.toRow ∈ (db.tables key.table).filter key.fits := by simp [hfilter, hfind]
      rw [List.mem_filter] at hmem
      exact List.any_eq_true.mpr ⟨_, hmem⟩

theorem tables_put_of_new (h : db.find record.key = none) :
    (db.put record).tables = Function.update db.tables record.key.table
      (db.tables record.key.table ++ [record.toRow]) := by
  funext table
  by_cases htable : table = record.key.table
  · subst htable
    rw [Function.update_self, tables, records_put_of_new h, List.map_append]
    rfl
  · rw [Function.update_of_ne htable, tables, records_put_of_ne htable]
    rfl

theorem tables_put_of_old {old : Record} (h : db.find record.key = some old) :
    (db.put record).tables = Function.update db.tables record.key.table
      ((db.tables record.key.table).map fun row => if record.key.fits row then record.toRow else row) := by
  funext table
  by_cases htable : table = record.key.table
  · subst htable
    rw [Function.update_self, tables, records_put_of_old h, tables, List.map_map, List.map_map]
    refine List.map_congr_left fun other hother => ?_
    simp only [Function.comp_apply, Record.fits_toRow (key_table_of_mem hother), decide_eq_true_eq]
    split <;> rfl
  · rw [Function.update_of_ne htable, tables, records_put_of_ne htable]
    rfl

end Database
end Passbook
