import Passbook.Proofs.Database.CarriesOut

/-!
# Every statement as it is written

The statements that make up transfers, registrations, confirmations and pages, and the other ones that are
written, are carried out as they are written, in all tables and with all values. For the update of a user the
addresses have to be distinct: one that is set to what it was before is not tested.
-/
namespace Passbook.Database

variable {db : Database} {stamp : Stamp}

theorem insert_eq (db : Database) (record : Record) (row : Row) (primaryKey : String)
    (refusal? : Option Refusal) :
    db.insert record row primaryKey refusal? =
      match (if (db.find record.key).isSome then some (.unique primaryKey) else refusal?) with
      | some refusal => .error refusal
      | none => writes row record := by
  unfold insert
  split <;> rfl

theorem carriesOut_insertAccount (owner : String) (balance : Int) (currency : String) :
    db.CarriesOut stamp (.insertAccount owner balance currency)
      (.insert .accounts ["owner", "balance", "currency"]) := by
  let account : Account := { id := stamp.id, owner, balance, currency, createdAt := stamp.now }
  have htested : TableName.accounts.tested (TableName.accounts.columns.map Column.name) =
      [(Failure.balanceConstraint, .atLeast "balance" 0), ("accounts_pkey", .unique ["id"]),
        ("owner_currency_key", .unique ["owner", "currency"]),
        ("accounts_owner_fkey", .references "owner" .users "username")] := by decide +kernel
  have hbalance : (Constraint.atLeast "balance" 0).isBroken db.tables (db.tables .accounts) account.toRow =
      decide (balance < 0) := rfl
  have hkey : (Constraint.unique ["id"]).isBroken db.tables (db.tables .accounts) account.toRow =
      (db.find (.account stamp.id)).isSome := isBroken_key (.account account)
  have hpair : (Constraint.unique ["owner", "currency"]).isBroken db.tables (db.tables .accounts)
      account.toRow = db.accounts.rows.any fun other => other.owner == owner && other.currency == currency := by
    simp only [Constraint.isBroken, tables, records, List.any_map]
    refine congrArg _ (funext fun other => ?_)
    change (some (Cell.text other.owner) == some (Cell.text owner) &&
      (some (Cell.text other.currency) == some (Cell.text currency) && true)) = _
    rw [Bool.eq_iff_iff]
    simp
  have howner : (Constraint.references "owner" .users "username").isBroken db.tables (db.tables .accounts)
      account.toRow = !(db.find (.user owner)).isSome := isBroken_references (.user owner) rfl
  refine carriesOut_insert (.account account) rfl rfl ?_
  simp only [insertRefusal?, Record.key, Key.table, htested, TableName.firstBroken, Record.toRow, hbalance, hkey,
    hpair, howner, decide_eq_true_eq, Bool.not_eq_true', ← Bool.not_eq_true, ite_not, execute, insertAccount,
    demand]
  by_cases hnegative : balance < 0
  · rw [if_pos hnegative, if_pos hnegative]
    rfl
  · rw [if_neg hnegative, if_neg hnegative]
    exact insert_eq ..

theorem carriesOut_insertEntry (account amount : Int) :
    db.CarriesOut stamp (.insertEntry account amount) (.insert .entries ["account_id", "amount"]) := by
  let entry : Entry := { id := stamp.id, accountId := account, amount, createdAt := stamp.now }
  have htested : TableName.entries.tested (TableName.entries.columns.map Column.name) =
      [("entries_pkey", .unique ["id"]),
        ("entries_account_id_fkey", .references "account_id" .accounts "id")] := by decide +kernel
  have hkey : (Constraint.unique ["id"]).isBroken db.tables (db.tables .entries) entry.toRow =
      (db.find (.entry stamp.id)).isSome := isBroken_key (.entry entry)
  have haccount : (Constraint.references "account_id" .accounts "id").isBroken db.tables (db.tables .entries)
      entry.toRow = !(db.find (.account account)).isSome := isBroken_references (.account account) rfl
  refine carriesOut_insert (.entry entry) rfl rfl ?_
  simp only [insertRefusal?, Record.key, Key.table, htested, TableName.firstBroken, Record.toRow, hkey, haccount,
    Bool.not_eq_true', ← Bool.not_eq_true, ite_not, execute, insertEntry, demand]
  exact insert_eq ..

theorem carriesOut_insertTransfer (order : TransferOrder) :
    db.CarriesOut stamp (.insertTransfer order)
      (.insert .transfers ["from_account_id", "to_account_id", "amount"]) := by
  let transfer : Transfer :=
    { id := stamp.id, fromAccount := order.fromAccount, toAccount := order.toAccount,
      amount := order.amount, createdAt := stamp.now }
  have htested : TableName.transfers.tested (TableName.transfers.columns.map Column.name) =
      [("transfers_amount_check", .atLeast "amount" 1), ("transfers_pkey", .unique ["id"]),
        ("transfers_from_account_id_fkey", .references "from_account_id" .accounts "id"),
        ("transfers_to_account_id_fkey", .references "to_account_id" .accounts "id")] := by decide +kernel
  have hamount : (Constraint.atLeast "amount" 1).isBroken db.tables (db.tables .transfers) transfer.toRow =
      decide (order.amount ≤ 0) := by
    change decide (order.amount < 1) = _
    rw [decide_eq_decide]
    omega
  have hkey : (Constraint.unique ["id"]).isBroken db.tables (db.tables .transfers) transfer.toRow =
      (db.find (.transfer stamp.id)).isSome := isBroken_key (.transfer transfer)
  have hsource : (Constraint.references "from_account_id" .accounts "id").isBroken db.tables
      (db.tables .transfers) transfer.toRow = !(db.find (.account order.fromAccount)).isSome :=
    isBroken_references (.account order.fromAccount) rfl
  have htarget : (Constraint.references "to_account_id" .accounts "id").isBroken db.tables
      (db.tables .transfers) transfer.toRow = !(db.find (.account order.toAccount)).isSome :=
    isBroken_references (.account order.toAccount) rfl
  refine carriesOut_insert (.transfer transfer) rfl rfl ?_
  simp only [insertRefusal?, Record.key, Key.table, htested, TableName.firstBroken, Record.toRow, hamount, hkey,
    hsource, htarget, decide_eq_true_eq, Bool.not_eq_true', ← Bool.not_eq_true, ite_not, execute,
    insertTransfer, demand]
  by_cases hpositive : order.amount ≤ 0
  · rw [if_pos hpositive, if_pos hpositive]
    rfl
  · rw [if_neg hpositive, if_neg hpositive, insert_eq]
    cases (db.find (.account order.fromAccount)).isSome <;> rfl

theorem carriesOut_insertUser (user : NewUser) :
    db.CarriesOut stamp (.insertUser user)
      (.insert .users ["username", "hashed_password", "full_name", "email"]) := by
  let row : User :=
    { username := user.username, passwordDigest := user.passwordDigest, fullName := user.fullName,
      email := user.email, passwordChangedAt := ⟨-62135596800000000⟩, isEmailVerified := false,
      createdAt := stamp.now }
  have htested : TableName.users.tested (TableName.users.columns.map Column.name) =
      [("users_pkey", .unique ["username"]), ("users_email_key", .unique ["email"])] := by decide +kernel
  have hkey : (Constraint.unique ["username"]).isBroken db.tables (db.tables .users) row.toRow =
      (db.find (.user user.username)).isSome := isBroken_key (.user row)
  have hemail : (Constraint.unique ["email"]).isBroken db.tables (db.tables .users) row.toRow =
      db.users.rows.any fun other => other.email == user.email := by
    simp only [Constraint.isBroken, tables, records, List.any_map]
    refine congrArg _ (funext fun other => ?_)
    change (some (Cell.text other.email) == some (Cell.text user.email) && true) = _
    rw [Bool.eq_iff_iff]
    simp
  refine carriesOut_insert (.user row) rfl rfl ?_
  simp only [insertRefusal?, Record.key, Key.table, htested, TableName.firstBroken, Record.toRow, hkey, hemail,
    execute, insertUser]
  exact insert_eq ..

theorem carriesOut_insertVerification (record : NewVerification) :
    db.CarriesOut stamp (.insertVerification record)
      (.insert .verifications ["username", "email", "secret_code"]) := by
  let row : Verification :=
    { id := stamp.id, username := record.username, email := record.email,
      secretCode := record.secretCode, isUsed := false, createdAt := stamp.now,
      expiredAt := ⟨stamp.now.micros + 900000000⟩ }
  have htested : TableName.verifications.tested (TableName.verifications.columns.map Column.name) =
      [("verify_emails_pkey", .unique ["id"]),
        ("verify_emails_username_fkey", .references "username" .users "username")] := by decide +kernel
  have hkey : (Constraint.unique ["id"]).isBroken db.tables (db.tables .verifications) row.toRow =
      (db.find (.verification stamp.id)).isSome := isBroken_key (.verification row)
  have huser : (Constraint.references "username" .users "username").isBroken db.tables
      (db.tables .verifications) row.toRow = !(db.find (.user record.username)).isSome :=
    isBroken_references (.user record.username) rfl
  refine carriesOut_insert (.verification row) rfl rfl ?_
  simp only [insertRefusal?, Record.key, Key.table, htested, TableName.firstBroken, Record.toRow, hkey, huser,
    Bool.not_eq_true', ← Bool.not_eq_true, ite_not, execute, insertVerification, demand]
  exact insert_eq ..

theorem readsOne_eq {α : Type} (wrap : α → Record) (toRow : α → Row) (h : ∀ row, (wrap row).toRow = toRow row)
    (found : Option α) : readsOne toRow found = reads ((found.map wrap).map Record.toRow).toList := by
  cases found with
  | none => rfl
  | some row => rw [readsOne, Option.map_some, Option.map_some, Option.map_some, h]

theorem carriesOut_lockAccount (id : Int) :
    db.CarriesOut stamp (.lockAccount id) (.select .accounts (.equals "id" 1) (.locked "NO KEY UPDATE")) := by
  refine carriesOut_lock (.account id) rfl rfl ?_
  simp only [execute, find]
  cases db.accounts.find id <;> rfl

theorem carriesOut_lockVerification (id : Int) :
    db.CarriesOut stamp (.lockVerification id) (.select .verifications (.equals "id" 1) (.locked "UPDATE")) := by
  refine carriesOut_lock (.verification id) rfl rfl ?_
  simp only [execute, find]
  cases db.verifications.find id <;> rfl

theorem carriesOut_selectAccounts (owner : String) (window : Window) :
    db.CarriesOut stamp (.selectAccounts owner window)
      (.select .accounts (.equals "owner" 1) (.section "id" 2 3)) := by
  refine carriesOut_section rfl (List.map_map ..) (fun account => ?_) (fun _ => rfl) rfl rfl (fun _ => rfl) rfl
  change (some (Cell.text account.owner) == some (Cell.text owner)) = decide (account.owner = owner)
  rw [Bool.eq_iff_iff]
  simp

theorem carriesOut_selectEntries (account : Int) (window : Window) :
    db.CarriesOut stamp (.selectEntries account window)
      (.select .entries (.equals "account_id" 1) (.section "id" 2 3)) := by
  refine carriesOut_section rfl (List.map_map ..) (fun entry => ?_) (fun _ => rfl) rfl rfl (fun _ => rfl) rfl
  change (some (Cell.int entry.accountId) == some (Cell.int account)) = decide (entry.accountId = account)
  rw [Bool.eq_iff_iff]
  simp

theorem carriesOut_selectTransfers (fromAccount toAccount : Int) (window : Window) :
    db.CarriesOut stamp (.selectTransfers fromAccount toAccount window)
      (.select .transfers (.either (.equals "from_account_id" 1) (.equals "to_account_id" 2))
        (.section "id" 3 4)) := by
  refine carriesOut_section rfl (List.map_map ..) (fun transfer => ?_) (fun _ => rfl) rfl rfl (fun _ => rfl) rfl
  change (some (Cell.int transfer.fromAccount) == some (Cell.int fromAccount) ||
    some (Cell.int transfer.toAccount) == some (Cell.int toAccount)) =
    decide (transfer.fromAccount = fromAccount ∨ transfer.toAccount = toAccount)
  rw [Bool.eq_iff_iff]
  simp

theorem carriesOut_addBalance (change : BalanceChange) :
    db.CarriesOut stamp (.addBalance change) (.update .accounts [("balance", .plus 2)] (.equals "id" 1)) := by
  have hholds : ∀ row, (Condition.equals "id" 1).holds (Statement.addBalance change).params row =
      Key.fits (.account change.account) row := holds_key (.account change.account) rfl
  have htested : TableName.accounts.tested ["balance"] =
      [(Failure.balanceConstraint, .atLeast "balance" 0)] := by decide +kernel
  refine carriesOut_update (.account change.account) rfl (fun row h => (hholds row).symm.trans h) ?_ ?_
  · intro hnone
    have hfind : db.accounts.find change.account = none := Option.map_eq_none_iff.mp hnone
    simp only [execute, hfind]
  · intro old hold
    obtain ⟨account, hfind, rfl⟩ := Option.map_eq_some_iff.mp hold
    let changed : Account := { account with balance := account.balance + change.amount }
    have hfound : (Condition.equals "id" 1).holds (Statement.addBalance change).params account.toRow = true :=
      (hholds _).trans (fits_of_find hold)
    have hfit : Setting.fit [("balance", .plus 2)] changed.toRow = decide (IsBigint changed.balance) :=
      Bool.and_true _
    have hbalance : ∀ others, (Constraint.atLeast "balance" 0).isBroken db.tables others changed.toRow =
        decide (changed.balance < 0) := fun _ => rfl
    refine .changed (.account changed) hfound rfl rfl ?_
    simp only [execute, hfind, writeBalance, updateRefusal?, Record.key, Key.table, Record.toRow,
      Written.updateRefusal?, hfit, List.map_cons, List.map_nil, htested, TableName.firstBroken, hbalance,
      decide_eq_true_eq]
    by_cases hrange : IsBigint changed.balance
    · rw [if_pos hrange, if_neg (not_not.mpr hrange)]
      by_cases hnegative : changed.balance < 0
      · rw [if_pos hnegative, if_pos hnegative]
        rfl
      · rw [if_neg hnegative, if_neg hnegative]
    · rw [if_neg hrange, if_pos hrange]

theorem carriesOut_useVerification (id : Int) :
    db.CarriesOut stamp (.useVerification id)
      (.update .verifications [("is_used", .yes)] (.both (.equals "id" 1) (.isFalse "is_used"))) := by
  have hholds : ∀ row, (Condition.both (.equals "id" 1) (.isFalse "is_used")).holds
      (Statement.useVerification id).params row =
      (Key.fits (.verification id) row && row.lookup "is_used" == some (.bool false)) :=
    fun row => congrArg (· && _) (holds_key (.verification id) rfl row)
  have htested : TableName.verifications.tested ["is_used"] = [] := by decide +kernel
  refine carriesOut_update (.verification id) rfl (fun row h => ?_) ?_ ?_
  · rw [hholds, Bool.and_eq_true] at h
    exact h.1
  · intro hnone
    have hfind : db.verifications.find id = none := Option.map_eq_none_iff.mp hnone
    simp only [execute, useVerification, hfind]
  · intro old hold
    obtain ⟨record, hfind, rfl⟩ := Option.map_eq_some_iff.mp hold
    have hfound : (Condition.both (.equals "id" 1) (.isFalse "is_used")).holds
        (Statement.useVerification id).params record.toRow = !record.isUsed := by
      have hfits : Key.fits (.verification id) record.toRow = true := fits_of_find hold
      rw [hholds, hfits]
      change (true && some (Cell.bool record.isUsed) == some (Cell.bool false)) = _
      cases record.isUsed <;> rfl
    cases hused : record.isUsed with
    | true =>
        refine .passed (hfound.trans (congrArg _ hused)) ?_
        simp only [execute, useVerification, hfind, hused, if_true]
    | false =>
        refine .changed (.verification { record with isUsed := true }) (hfound.trans (congrArg _ hused)) rfl rfl
          ?_
        simp only [execute, useVerification, hfind, hused, updateRefusal?, Record.key, Key.table, Record.toRow,
          Written.updateRefusal?, List.map_cons, List.map_nil, htested, TableName.firstBroken]
        rfl

/-- A column keeps what it holds if the value for it is absent. -/
theorem getD_cell? {α : Type} {bind : α → Param} {cell : α → Cell} (h : ∀ a, (bind a).cell? = some (cell a))
    (given? : Option α) (old : α) :
    (Param.ofOption bind given?).cell?.getD (cell old) = cell (given?.getD old) := by
  cases given? with
  | none => rfl
  | some value => rw [Param.ofOption, h, Option.getD_some, Option.getD_some]

def userSettings : List (String × Setting) :=
  [("hashed_password", .given 2), ("password_changed_at", .given 3), ("full_name", .given 4),
    ("email", .given 5), ("is_email_verified", .given 6)]

theorem applyAll_updateUser (user : User) (change : UserChange) :
    Setting.applyAll (Statement.updateUser change).params userSettings user.toRow =
      (changed user change).toRow := by
  have hset : Setting.applyAll (Statement.updateUser change).params userSettings user.toRow =
      [("username", .text user.username),
        ("hashed_password",
          (Param.ofOption .text change.passwordDigest).cell?.getD (.text user.passwordDigest)),
        ("full_name", (Param.ofOption .text change.fullName).cell?.getD (.text user.fullName)),
        ("email", (Param.ofOption .text change.email).cell?.getD (.text user.email)),
        ("password_changed_at",
          (Param.ofOption .instant change.passwordChangedAt).cell?.getD (.int user.passwordChangedAt.micros)),
        ("is_email_verified",
          (Param.ofOption .bool change.isEmailVerified).cell?.getD (.bool user.isEmailVerified)),
        ("created_at", .int user.createdAt.micros)] := rfl
  have hinstant : ∀ t : Instant, (Param.instant t).cell? = some (.int t.micros) := fun _ => rfl
  rw [hset, getD_cell? fun _ => rfl, getD_cell? fun _ => rfl, getD_cell? fun _ => rfl, getD_cell? hinstant,
    getD_cell? fun _ => rfl]
  rfl

/-- An address that is given is tested against those of all other users. -/
theorem isBroken_email (hunique : (db.users.rows.map User.email).Nodup) {change : UserChange} {user : User}
    (hfind : db.users.find change.username = some user) :
    (Constraint.unique ["email"]).isBroken db.tables
      ((db.tables .users).filter fun row => !Key.fits (.user user.username) row) (changed user change).toRow =
      db.takesEmail change := by
  obtain ⟨huser, hname⟩ := Table.find_eq_some.mp hfind
  have hothers : (Constraint.unique ["email"]).isBroken db.tables
      ((db.tables .users).filter fun row => !Key.fits (.user user.username) row) (changed user change).toRow =
      db.users.rows.any fun other =>
        other.username != change.username && other.email == (changed user change).email := by
    simp only [Constraint.isBroken, tables, records, List.map_map, List.filter_map, List.any_map,
      List.any_filter]
    refine congrArg _ (funext fun other => ?_)
    change (!(some (Cell.text other.username) == some (Cell.text user.username)) &&
      (some (Cell.text other.email) == some (Cell.text (changed user change).email) && true)) = _
    rw [Bool.eq_iff_iff]
    simp [hname]
  rw [hothers, takesEmail]
  cases hgiven : change.email with
  | some email => simp only [changed, hgiven, Option.getD_some]
  | none =>
      rw [List.any_eq_false]
      intro other hother
      simp only [changed, hgiven, Option.getD_none, Bool.and_eq_true, bne_iff_ne, beq_iff_eq, not_and]
      intro hne hsame
      exact hne (List.inj_on_of_nodup_map hunique hother huser hsame ▸ hname)

theorem carriesOut_updateUser (hunique : (db.users.rows.map User.email).Nodup) (change : UserChange) :
    db.CarriesOut stamp (.updateUser change) (.update .users userSettings (.equals "username" 1)) := by
  have hholds : ∀ row, (Condition.equals "username" 1).holds (Statement.updateUser change).params row =
      Key.fits (.user change.username) row := holds_key (.user change.username) rfl
  have htested : TableName.users.tested (userSettings.map (·.1)) = [("users_email_key", .unique ["email"])] := by
    decide +kernel
  refine carriesOut_update (.user change.username) rfl (fun row h => (hholds row).symm.trans h) ?_ ?_
  · intro hnone
    have hfind : db.users.find change.username = none := Option.map_eq_none_iff.mp hnone
    simp only [execute, updateUser, hfind]
  · intro old hold
    obtain ⟨user, hfind, rfl⟩ := Option.map_eq_some_iff.mp hold
    have hfound : (Condition.equals "username" 1).holds (Statement.updateUser change).params user.toRow = true :=
      (hholds _).trans (fits_of_find hold)
    have hfit : Setting.fit userSettings (changed user change).toRow = true := rfl
    have hemail := isBroken_email hunique hfind
    refine .changed (.user (changed user change)) hfound (applyAll_updateUser user change) rfl ?_
    have hkey : (Record.user (changed user change)).key = .user user.username := rfl
    simp only [execute, updateUser, hfind, updateRefusal?, hkey, Key.table, Record.toRow,
      Written.updateRefusal?, hfit, if_true, htested, TableName.firstBroken, hemail]
    cases db.takesEmail change <;> rfl

/-- Every statement that is written is carried out as it is written. -/
theorem carriesOut (hunique : (db.users.rows.map User.email).Nodup) {statement : Statement} {written : Written}
    (h : statement.written? = some written) : db.CarriesOut stamp statement written := by
  cases statement <;> cases h
  case insertAccount owner balance currency => exact carriesOut_insertAccount owner balance currency
  case selectAccount id =>
    exact carriesOut_select (.account id) rfl rfl (readsOne_eq .account Account.toRow (fun _ => rfl) _)
  case lockAccount id => exact carriesOut_lockAccount id
  case selectAccounts owner window => exact carriesOut_selectAccounts owner window
  case addBalance change => exact carriesOut_addBalance change
  case insertEntry account amount => exact carriesOut_insertEntry account amount
  case selectEntry id =>
    exact carriesOut_select (.entry id) rfl rfl (readsOne_eq .entry Entry.toRow (fun _ => rfl) _)
  case selectEntries account window => exact carriesOut_selectEntries account window
  case insertTransfer order => exact carriesOut_insertTransfer order
  case selectTransfer id =>
    exact carriesOut_select (.transfer id) rfl rfl (readsOne_eq .transfer Transfer.toRow (fun _ => rfl) _)
  case selectTransfers source target window => exact carriesOut_selectTransfers source target window
  case insertUser user => exact carriesOut_insertUser user
  case selectUser name =>
    exact carriesOut_select (.user name) rfl rfl (readsOne_eq .user User.toRow (fun _ => rfl) _)
  case updateUser change => exact carriesOut_updateUser hunique change
  case insertVerification record => exact carriesOut_insertVerification record
  case lockVerification id => exact carriesOut_lockVerification id
  case useVerification id => exact carriesOut_useVerification id

end Passbook.Database
