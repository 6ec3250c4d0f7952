import Passbook.Proofs.Database.Draft

/-!
# Statements that can be relied on

What a statement that is carried out has found and what it has done, for the statements of the
transactions that move money and confirm addresses. From this it follows that they are steady.
-/
namespace Passbook

namespace Database

variable {db : Database} {stamp : Stamp} {answer : Answer} {effect : Effect}

theorem demand_eq_none {key : Key} {refusal : Refusal} :
    db.demand key refusal = none ↔ (db.find key).isSome := by
  unfold demand
  split
  · next h => exact iff_of_true rfl h
  · next h => exact iff_of_false nofun h

theorem insert_eq_ok {record : Record} {row : Row} {primaryKey : String} {refusal? : Option Refusal} :
    db.insert record row primaryKey refusal? = .ok (answer, effect) ↔
      db.find record.key = none ∧ refusal? = none ∧ answer = ⟨[row], 1⟩ ∧ effect = .put record := by
  unfold insert
  split
  · next h => exact iff_of_false nofun fun hall => by simp [hall.1] at h
  · next h =>
      cases refusal? with
      | some refusal => exact iff_of_false nofun fun hall => nomatch hall.2.1
      | none =>
          constructor
          · intro heq
            cases heq
            exact ⟨Option.not_isSome_iff_eq_none.mp h, rfl, rfl, rfl⟩
          · rintro ⟨_, _, rfl, rfl⟩
            rfl

theorem writeBalance_eq_ok {account : Account} {balance : Int} :
    writeBalance account balance = .ok (answer, effect) ↔
      (IsBigint balance ∧ 0 ≤ balance) ∧ answer = ⟨[{ account with balance }.toRow], 1⟩ ∧
        effect = .put (.account { account with balance }) := by
  unfold writeBalance
  split
  · next h => exact iff_of_false nofun fun hall => h hall.1.1
  · next h =>
      split
      · next hnegative => exact iff_of_false nofun fun hall => by omega
      · next hnonnegative =>
          have hbalance : IsBigint balance ∧ 0 ≤ balance := ⟨Classical.not_not.mp h, by omega⟩
          simp [writes, hbalance, eq_comm]

theorem insertTransfer_eq_ok {order : TransferOrder} :
    db.execute stamp (.insertTransfer order) = .ok (answer, effect) ↔
      let transfer : Transfer := ⟨stamp.id, order.fromAccount, order.toAccount, order.amount, stamp.now⟩
      0 < order.amount ∧ db.find (.transfer stamp.id) = none ∧
        (db.find (.account order.fromAccount)).isSome ∧ (db.find (.account order.toAccount)).isSome ∧
        answer = ⟨[transfer.toRow], 1⟩ ∧ effect = .put (.transfer transfer) := by
  simp only [execute, insertTransfer]
  split
  · next h => exact iff_of_false nofun fun hall => by omega
  · next h =>
      simp only [insert_eq_ok, Option.or_eq_none_iff, demand_eq_none, Record.key, and_assoc]
      exact ⟨fun hall => ⟨by omega, hall⟩, And.right⟩

theorem insertEntry_eq_ok {account amount : Int} :
    db.execute stamp (.insertEntry account amount) = .ok (answer, effect) ↔
      let entry : Entry := ⟨stamp.id, account, amount, stamp.now⟩
      db.find (.entry stamp.id) = none ∧ (db.find (.account account)).isSome ∧
        answer = ⟨[entry.toRow], 1⟩ ∧ effect = .put (.entry entry) := by
  simp only [execute, insertEntry, insert_eq_ok, demand_eq_none, Record.key]

theorem reads_nil_eq_ok :
    reads [] = .ok (answer, effect) ↔ answer = ⟨[], 0⟩ ∧ effect = .none := by
  simp [reads, eq_comm]

theorem reads_nil_ne_ok (hrows : answer.rows ≠ []) : reads [] ≠ .ok (answer, effect) :=
  fun h => hrows (by rw [(reads_nil_eq_ok.mp h).1])

theorem addBalance_eq_ok {change : BalanceChange} (hrows : answer.rows ≠ []) :
    db.execute stamp (.addBalance change) = .ok (answer, effect) ↔
      ∃ account, db.accounts.find change.account = some account ∧
        (IsBigint (account.balance + change.amount) ∧ 0 ≤ account.balance + change.amount) ∧
        answer = ⟨[{ account with balance := account.balance + change.amount }.toRow], 1⟩ ∧
        effect = .put (.account { account with balance := account.balance + change.amount }) := by
  simp only [execute]
  cases db.accounts.find change.account with
  | none => exact iff_of_false (reads_nil_ne_ok hrows) (by simp)
  | some account => simp [writeBalance_eq_ok]

theorem holds_eq_ok {row : Row} {key : Key} :
    holds row key = .ok (answer, effect) ↔ answer = ⟨[row], 0⟩ ∧ effect = .hold key := by
  simp [holds, eq_comm]

theorem writes_eq_ok {row : Row} {record : Record} :
    writes row record = .ok (answer, effect) ↔ answer = ⟨[row], 1⟩ ∧ effect = .put record := by
  simp [writes, eq_comm]

theorem lockVerification_eq_ok {id : Int} (hrows : answer.rows ≠ []) :
    db.execute stamp (.lockVerification id) = .ok (answer, effect) ↔
      ∃ record, db.verifications.find id = some record ∧ answer = ⟨[record.toRow], 0⟩ ∧
        effect = .hold (.verification id) := by
  simp only [execute]
  cases db.verifications.find id with
  | none => exact iff_of_false (reads_nil_ne_ok hrows) (by simp)
  | some record => simp [holds_eq_ok]

theorem useVerification_eq_ok {id : Int} (hrows : answer.rows ≠ []) :
    db.execute stamp (.useVerification id) = .ok (answer, effect) ↔
      ∃ record, db.verifications.find id = some record ∧ record.isUsed = false ∧
        answer = ⟨[{ record with isUsed := true }.toRow], 1⟩ ∧
        effect = .put (.verification { record with isUsed := true }) := by
  simp only [execute, useVerification]
  cases db.verifications.find id with
  | none => exact iff_of_false (reads_nil_ne_ok hrows) (by simp)
  | some record =>
      dsimp only
      split
      · next h => exact iff_of_false (reads_nil_ne_ok hrows) (by simp [h])
      · next h => simp [writes_eq_ok, h]

theorem updateUser_eq_ok {change : UserChange} (hemail : change.email = none) (hrows : answer.rows ≠ []) :
    db.execute stamp (.updateUser change) = .ok (answer, effect) ↔
      ∃ user, db.users.find change.username = some user ∧
        answer = ⟨[(changed user change).toRow], 1⟩ ∧ effect = .put (.user (changed user change)) := by
  have htakes : db.takesEmail change = false := by rw [takesEmail, hemail]
  simp only [execute, updateUser]
  cases db.users.find change.username with
  | none => exact iff_of_false (reads_nil_ne_ok hrows) (by simp)
  | some user => simp [htakes, writes_eq_ok]

theorem writes_rows_ne_nil {row : Row} {record : Record} (h : writes row record = .ok (answer, effect)) :
    answer.rows ≠ [] := by
  rw [(writes_eq_ok.mp h).1]
  exact List.cons_ne_nil _ _

theorem accounts_find_congr {db' : Database} {id : Int}
    (h : db'.find (.account id) = db.find (.account id)) : db'.accounts.find id = db.accounts.find id :=
  Option.map_injective (fun _ _ => Record.account.inj) h

theorem verifications_find_congr {db' : Database} {id : Int}
    (h : db'.find (.verification id) = db.find (.verification id)) :
    db'.verifications.find id = db.verifications.find id :=
  Option.map_injective (fun _ _ => Record.verification.inj) h

theorem users_find_congr {db' : Database} {username : String}
    (h : db'.find (.user username) = db.find (.user username)) :
    db'.users.find username = db.users.find username :=
  Option.map_injective (fun _ _ => Record.user.inj) h

end Database

open Database

namespace Statement

/-- A statement is steady if it leaves nothing behind without a row, and what it does with one depends
on what it holds alone. -/
theorem Steady.of_rows {statement : Statement}
    (hempty : ∀ {db : Database} {stamp answer effect}, db.execute stamp statement = .ok (answer, effect) →
      answer.rows = [] → effect = .none)
    (hrows : ∀ {db : Database} {stamp answer effect}, db.execute stamp statement = .ok (answer, effect) →
      answer.rows ≠ [] → (∀ key, effect ≠ .remove key) ∧
        ∀ {db'}, Keeps effect.key?.toList db db' → db'.execute stamp statement = .ok (answer, effect)) :
    statement.Steady where
  adds {db stamp answer effect} h key := by
    by_cases hanswer : answer.rows = []
    · rw [hempty h hanswer]
      nofun
    · exact (hrows h hanswer).1 key
  finds := hempty
  carries h hanswer hkeeps := (hrows h hanswer).2 hkeeps

theorem steady_insertTransfer (order : TransferOrder) : (insertTransfer order).Steady := by
  refine .of_rows (fun h hempty => ?_) fun h _ => ?_
  · obtain ⟨_, _, _, _, rfl, _⟩ := insertTransfer_eq_ok.mp h
    cases hempty
  · obtain ⟨hamount, hfree, hfrom, hto, rfl, rfl⟩ := insertTransfer_eq_ok.mp h
    refine ⟨Effect.put_ne_remove _, fun hkeeps => insertTransfer_eq_ok.mpr ?_⟩
    have hsame := hkeeps.2 _ (Option.mem_toList.mpr rfl)
    exact ⟨hamount, hsame.trans hfree, hkeeps.1 _ hfrom, hkeeps.1 _ hto, rfl, rfl⟩

theorem steady_insertEntry (account amount : Int) : (insertEntry account amount).Steady := by
  refine .of_rows (fun h hempty => ?_) fun h _ => ?_
  · obtain ⟨_, _, rfl, _⟩ := insertEntry_eq_ok.mp h
    cases hempty
  · obtain ⟨hfree, haccount, rfl, rfl⟩ := insertEntry_eq_ok.mp h
    refine ⟨Effect.put_ne_remove _, fun hkeeps => insertEntry_eq_ok.mpr ?_⟩
    have hsame := hkeeps.2 _ (Option.mem_toList.mpr rfl)
    exact ⟨hsame.trans hfree, hkeeps.1 _ haccount, rfl, rfl⟩

theorem steady_addBalance (change : BalanceChange) : (addBalance change).Steady := by
  refine .of_rows (fun {db _ _ _} h hempty => ?_) fun h hrows => ?_
  · simp only [execute] at h
    cases hfind : db.accounts.find change.account with
    | none =>
        rw [hfind] at h
        exact (reads_nil_eq_ok.mp h).2
    | some account =>
        rw [hfind] at h
        rw [(writeBalance_eq_ok.mp h).2.1] at hempty
        cases hempty
  · obtain ⟨account, hfind, hbalance, hanswer, rfl⟩ := (addBalance_eq_ok hrows).mp h
    refine ⟨Effect.put_ne_remove _, fun hkeeps => (addBalance_eq_ok hrows).mpr ?_⟩
    obtain ⟨_, hid⟩ := Table.find_eq_some.mp hfind
    have hsame := accounts_find_congr (hkeeps.2 (.account change.account) (Option.mem_toList.mpr (by
      rw [← hid]
      rfl)))
    exact ⟨account, hsame.trans hfind, hbalance, hanswer, rfl⟩

theorem steady_lockVerification (id : Int) : (lockVerification id).Steady := by
  refine .of_rows (fun {db _ _ _} h hempty => ?_) fun h hrows => ?_
  · simp only [execute] at h
    cases hfind : db.verifications.find id with
    | none =>
        rw [hfind] at h
        exact (reads_nil_eq_ok.mp h).2
    | some record =>
        rw [hfind] at h
        rw [(holds_eq_ok.mp h).1] at hempty
        cases hempty
  · obtain ⟨record, hfind, hanswer, rfl⟩ := (lockVerification_eq_ok hrows).mp h
    refine ⟨Effect.hold_ne_remove _, fun hkeeps => (lockVerification_eq_ok hrows).mpr ?_⟩
    have hsame := verifications_find_congr (hkeeps.2 _ (Option.mem_toList.mpr rfl))
    exact ⟨record, hsame.trans hfind, hanswer, rfl⟩

theorem steady_useVerification (id : Int) : (useVerification id).Steady := by
  refine .of_rows (fun {db _ _ _} h hempty => ?_) fun h hrows => ?_
  · simp only [execute, Database.useVerification] at h
    split at h
    · exact (reads_nil_eq_ok.mp h).2
    · split at h
      · exact (reads_nil_eq_ok.mp h).2
      · exact absurd hempty (writes_rows_ne_nil h)
  · obtain ⟨record, hfind, hunused, hanswer, rfl⟩ := (useVerification_eq_ok hrows).mp h
    refine ⟨Effect.put_ne_remove _, fun hkeeps => (useVerification_eq_ok hrows).mpr ?_⟩
    obtain ⟨_, rfl⟩ := Table.find_eq_some.mp hfind
    have hsame := verifications_find_congr (hkeeps.2 _ (Option.mem_toList.mpr rfl))
    exact ⟨record, hsame.trans hfind, hunused, hanswer, rfl⟩

/-- An update that leaves the address alone does not depend on the addresses of others. -/
theorem steady_updateUser {change : UserChange} (hemail : change.email = none) :
    (updateUser change).Steady := by
  refine .of_rows (fun h hempty => ?_) fun h hrows => ?_
  · simp only [execute, Database.updateUser] at h
    split at h
    · exact (reads_nil_eq_ok.mp h).2
    · split at h
      · cases h
      · exact absurd hempty (writes_rows_ne_nil h)
  · obtain ⟨user, hfind, hanswer, rfl⟩ := (updateUser_eq_ok hemail hrows).mp h
    refine ⟨Effect.put_ne_remove _, fun hkeeps => (updateUser_eq_ok hemail hrows).mpr ?_⟩
    obtain ⟨_, hname⟩ := Table.find_eq_some.mp hfind
    have hsame := users_find_congr (hkeeps.2 (.user change.username) (Option.mem_toList.mpr (by
      rw [← hname]
      rfl)))
    exact ⟨user, hsame.trans hfind, hanswer, rfl⟩

end Statement

end Passbook
