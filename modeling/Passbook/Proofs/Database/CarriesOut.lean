import Passbook.Proofs.Database.Rows
import Passbook.Proofs.Database.Written

/-!
# Carried out as written

A statement is carried out as it is written if its text is that of what is written, and if, read as rows of
columns, its answer, the rows that it holds and the tables after it are what that comes to with the values of
the statement at its places. Each kind of statement has one lemma that says when it is.
-/
namespace Passbook

theorem Record.shown_toRow (record : Record) :
    (Shown.ofTable record.key.table).take record.toRow = record.toRow := by
  cases record <;> rfl

namespace Database

variable {db : Database} {stamp : Stamp} {statement : Statement}

/-- What a statement has done, read as rows of columns. -/
def outcome (db : Database) (done : Answer × Effect) : Outcome where
  answer := done.1
  held := ((done.2.key?.bind (done.2.apply db).find).map Record.toRow).toList
  tables := (done.2.apply db).tables

structure CarriesOut (db : Database) (stamp : Stamp) (statement : Statement) (written : Written) : Prop where
  text : statement.text = written.text
  done : (db.execute stamp statement).map db.outcome = written.run db.tables stamp statement.params

theorem outcome_reads (rows : List Row) : (reads rows).map db.outcome = .ok ⟨⟨rows, 0⟩, [], db.tables⟩ := rfl

theorem outcome_writes (record : Record) : (writes record.toRow record).map db.outcome =
    .ok ⟨⟨[record.toRow], 1⟩, [record.toRow], (db.put record).tables⟩ := by
  simp [writes, Except.map, outcome, Effect.key?, Effect.apply]

theorem isBroken_key (record : Record) : (Constraint.unique [record.key.column]).isBroken db.tables
    (db.tables record.key.table) record.toRow = (db.find record.key).isSome := by
  have hcell : record.toRow.lookup record.key.column = some record.key.cell := by cases record <;> rfl
  simp only [Constraint.isBroken, List.all_cons, List.all_nil, Bool.and_true, hcell]
  exact db.any_fits record.key

theorem isBroken_references {column : String} {others : List Row} {row : Row} (key : Key)
    (hrow : row.lookup column = some key.cell) :
    (Constraint.references column key.table key.column).isBroken db.tables others row =
      !(db.find key).isSome := by
  simp only [Constraint.isBroken, hrow]
  exact congrArg _ (db.any_fits key)

end Database

namespace TableName

variable {table : TableName} {tables : Tables} {others : List Row} {row : Row}

theorem not_broken {tested : List (String × Constraint)} (h : table.firstBroken tables others row tested = none) :
    ∀ named ∈ tested, named.2.isBroken tables others row = false := by
  induction tested with
  | nil => exact fun _ hnamed => absurd hnamed List.not_mem_nil
  | cons first rest ih =>
      rw [firstBroken] at h
      split at h
      · cases h
      · next hfirst => exact List.forall_mem_cons.mpr ⟨Bool.eq_false_iff.mpr hfirst, ih h⟩

theorem key_tested (key : Key) : (key.table.text ++ "_pkey", .unique [key.column]) ∈
    key.table.tested (key.table.columns.map Column.name) := by
  cases key <;> dsimp only [Key.table, Key.column] <;> decide +kernel

end TableName

namespace Database

variable {db : Database} {stamp : Stamp} {statement : Statement}

def insertRefusal? (db : Database) (record : Record) : Option Refusal :=
  record.key.table.firstBroken db.tables (db.tables record.key.table) record.toRow
    (record.key.table.tested (record.key.table.columns.map Column.name))

theorem find_of_insertRefusal? {record : Record} (h : db.insertRefusal? record = none) :
    db.find record.key = none := by
  have hkey := TableName.not_broken h _ (TableName.key_tested record.key)
  rwa [isBroken_key, Option.isSome_eq_false_iff, Option.isNone_iff_eq_none] at hkey

/-- A new row is stored, unless it is refused for the first constraint that it breaks. -/
theorem carriesOut_insert (record : Record) {columns : List String}
    (hwritten : statement.written? = some (.insert record.key.table columns))
    (hrow : Written.newRow record.key.table columns statement.params stamp = record.toRow)
    (hexecute : db.execute stamp statement =
      match db.insertRefusal? record with
      | some refusal => .error refusal
      | none => writes record.toRow record) :
    db.CarriesOut stamp statement (.insert record.key.table columns) where
  text := Statement.text_written hwritten
  done := by
    rw [hexecute]
    simp only [Written.run, hrow]
    rw [← insertRefusal?]
    cases hrefusal : db.insertRefusal? record with
    | some refusal => rfl
    | none =>
        dsimp only
        rw [outcome_writes, tables_put_of_new (find_of_insertRefusal? hrefusal), record.shown_toRow]

end Database

namespace Written

variable {holds fits : Row → Bool} {set : Row → Row} {refusal? : List Row → Row → Option Refusal}
  {done before rest rows : List Row}

theorem amend_append (h : ∀ row ∈ before, holds row = false) :
    amend holds set refusal? done (before ++ rest) = amend holds set refusal? (done ++ before) rest := by
  induction before generalizing done with
  | nil => rw [List.nil_append, List.append_nil]
  | cons row before ih =>
      rw [List.forall_mem_cons] at h
      rw [List.cons_append, amend, if_neg (Bool.eq_false_iff.mp h.1), ih h.2, List.append_assoc,
        List.singleton_append]

theorem amend_of_missing (h : ∀ row ∈ rows, holds row = false) :
    amend holds set refusal? done rows = .ok ([], done ++ rows) := by
  rw [← List.append_nil rows, amend_append h, amend, List.append_nil]

/-- No row is found if none of those that fit is. -/
theorem not_holds_of_filter (hfits : ∀ row, holds row = true → fits row = true)
    (h : ∀ row ∈ rows.filter fits, holds row = false) : ∀ row ∈ rows, holds row = false := by
  intro row hrow
  refine Bool.eq_false_iff.mpr fun hholds => ?_
  exact Bool.eq_false_iff.mp (h row (List.mem_filter.mpr ⟨hrow, hfits row hholds⟩)) hholds

theorem map_of_unfit {new : Row} (h : ∀ row ∈ rows, ¬fits row = true) :
    rows.map (fun row => if fits row then new else row) = rows := by
  rw [List.map_congr_left fun row hrow => if_neg (h row hrow)]
  exact List.map_id' rows

/-- Of rows of which one alone fits, that one is changed if it is found. -/
theorem amend_of_filter {old : Row} (h : rows.filter fits = [old])
    (hfits : ∀ row, holds row = true → fits row = true) (hold : holds old = true) :
    amend holds set refusal? [] rows =
      match refusal? (rows.filter fun row => !fits row) (set old) with
      | some refusal => .error refusal
      | none => .ok ([set old], rows.map fun row => if fits row then set old else row) := by
  obtain ⟨before, rest, rfl, hbefore, hfit, hrest⟩ := List.filter_eq_cons_iff.mp h
  rw [List.filter_eq_nil_iff] at hrest
  have hpassed : ∀ {rows : List Row}, (∀ row ∈ rows, ¬fits row = true) → ∀ row ∈ rows, holds row = false := by
    intro rows hrows
    refine not_holds_of_filter hfits ?_
    rw [List.filter_eq_nil_iff.mpr hrows]
    exact List.forall_mem_nil _
  have hothers : ∀ {rows : List Row}, (∀ row ∈ rows, ¬fits row = true) →
      rows.filter (fun row => !fits row) = rows := by
    intro rows hrows
    exact List.filter_eq_self.mpr (by simpa using hrows)
  rw [amend_append (hpassed hbefore), List.nil_append, amend, if_pos hold, amend_of_missing (hpassed hrest),
    List.filter_append, List.filter_cons_of_neg (by simp [hfit]), hothers hbefore, hothers hrest,
    List.map_append, List.map_cons, if_pos hfit, map_of_unfit hbefore, map_of_unfit hrest, List.append_assoc,
    List.singleton_append]
  cases refusal? (before ++ rest) (set old) <;> rfl

end Written

namespace Database

variable {db : Database} {stamp : Stamp} {statement : Statement} {key : Key} {condition : Condition}

/-- Why a record that takes the place of the one with its key is refused. -/
def updateRefusal? (db : Database) (settings : List (String × Setting)) (record : Record) : Option Refusal :=
  Written.updateRefusal? record.key.table settings db.tables
    ((db.tables record.key.table).filter fun row => !record.key.fits row) record.toRow

/-- What becomes of a record by an update as it is written, and that it is done. -/
inductive Amended (db : Database) (stamp : Stamp) (statement : Statement) (settings : List (String × Setting))
    (condition : Condition) (old : Record) : Prop
  | passed : condition.holds statement.params old.toRow = false → db.execute stamp statement = reads [] →
      Amended db stamp statement settings condition old
  | changed (new : Record) : condition.holds statement.params old.toRow = true →
      Setting.applyAll statement.params settings old.toRow = new.toRow → new.key = old.key →
      db.execute stamp statement =
        (match db.updateRefusal? settings new with
        | some refusal => .error refusal
        | none => writes new.toRow new) →
      Amended db stamp statement settings condition old

/-- An update that finds rows by their key changes the one row with it, or none. -/
theorem carriesOut_update (key : Key) {settings : List (String × Setting)}
    (hwritten : statement.written? = some (.update key.table settings condition))
    (hfits : ∀ row, condition.holds statement.params row = true → key.fits row = true)
    (hmissing : db.find key = none → db.execute stamp statement = reads [])
    (hfound : ∀ old, db.find key = some old → Amended db stamp statement settings condition old) :
    db.CarriesOut stamp statement (.update key.table settings condition) where
  text := Statement.text_written hwritten
  done := by
    have hfilter := db.filter_fits key
    have hnothing : (∀ row ∈ db.tables key.table, condition.holds statement.params row = false) →
        (Written.update key.table settings condition).run db.tables stamp statement.params =
          (reads []).map db.outcome := by
      intro hrows
      rw [Written.run, Written.amend_of_missing hrows, outcome_reads]
      exact congrArg (fun tables => Except.ok (Outcome.mk ⟨[], 0⟩ [] tables)) (Function.update_eq_self ..)
    cases hfind : db.find key with
    | none =>
        rw [hfind, Option.map_none, Option.toList_none] at hfilter
        rw [hmissing hfind, hnothing (Written.not_holds_of_filter hfits ?_)]
        rw [hfilter]
        exact List.forall_mem_nil _
    | some old =>
        rw [hfind, Option.map_some, Option.toList_some] at hfilter
        cases hfound old hfind with
        | passed hpassed hexecute =>
            rw [hexecute, hnothing (Written.not_holds_of_filter hfits ?_)]
            rw [hfilter]
            exact List.forall_mem_singleton.mpr hpassed
        | changed new hholds hset hkey hexecute =>
            obtain rfl : new.key = key := hkey.trans (find_key hfind)
            rw [hexecute, Written.run, Written.amend_of_filter hfilter hfits hholds, hset, ← updateRefusal?]
            cases db.updateRefusal? settings new with
            | some refusal => rfl
            | none =>
                dsimp only
                rw [outcome_writes, tables_put_of_old hfind]
                exact congrArg (fun row => Except.ok (Outcome.mk ⟨[row], 1⟩ _ _)) new.shown_toRow.symm

theorem holds_key {params : List Param} {place : Nat} (key : Key)
    (h : Param.cellAt? params place = some key.cell) (row : Row) :
    (Condition.equals key.column place).holds params row = key.fits row := by
  rw [Condition.holds, h, Key.fits]

theorem filter_holds {params : List Param} {place : Nat} (key : Key)
    (h : Param.cellAt? params place = some key.cell) :
    (db.tables key.table).filter ((Condition.equals key.column place).holds params) =
      ((db.find key).map Record.toRow).toList := by
  rw [← filter_fits]
  exact List.filter_congr fun row _ => holds_key key h row

theorem carriesOut_select (key : Key)
    (hwritten : statement.written? = some (.select key.table (.equals key.column 1) .plain))
    (hplace : Param.cellAt? statement.params 1 = some key.cell)
    (hexecute : db.execute stamp statement = reads ((db.find key).map Record.toRow).toList) :
    db.CarriesOut stamp statement (.select key.table (.equals key.column 1) .plain) where
  text := Statement.text_written hwritten
  done := by
    rw [hexecute, outcome_reads, Written.run, filter_holds key hplace]
    cases hfind : db.find key with
    | none => rfl
    | some record =>
        obtain rfl := find_key hfind
        exact congrArg (fun row => Except.ok (Outcome.mk ⟨[row], 0⟩ [] db.tables)) record.shown_toRow.symm

theorem carriesOut_lock (key : Key) {strength : String}
    (hwritten : statement.written? = some (.select key.table (.equals key.column 1) (.locked strength)))
    (hplace : Param.cellAt? statement.params 1 = some key.cell)
    (hexecute : db.execute stamp statement =
      match db.find key with
      | none => reads []
      | some record => holds record.toRow key) :
    db.CarriesOut stamp statement (.select key.table (.equals key.column 1) (.locked strength)) where
  text := Statement.text_written hwritten
  done := by
    rw [hexecute, Written.run, filter_holds key hplace]
    cases hfind : db.find key with
    | none => rfl
    | some record =>
        obtain rfl := find_key hfind
        simp only [holds, Except.map, outcome, Effect.key?, Effect.apply, Option.bind_some, hfind]
        exact congrArg (fun row => Except.ok (Outcome.mk ⟨[row], 0⟩ [record.toRow] db.tables))
          record.shown_toRow.symm

theorem carriesOut_section {α : Type} {id : α → Int} {toRow : α → Row} {isFound : α → Bool} {rows : List α}
    {table : TableName} {window : Window} {limit offset : Nat}
    (hwritten : statement.written? = some (.select table condition (.section "id" limit offset)))
    (hrows : db.tables table = rows.map toRow)
    (hcondition : ∀ row, condition.holds statement.params (toRow row) = isFound row)
    (hid : ∀ row, (toRow row).lookup "id" = some (.int (id row)))
    (hlimit : Param.cellAt? statement.params limit = some (.int window.limit))
    (hoffset : Param.cellAt? statement.params offset = some (.int window.offset))
    (hshown : ∀ row, (Shown.ofTable table).take (toRow row) = toRow row)
    (hexecute : db.execute stamp statement = page id toRow (rows.filter isFound) window) :
    db.CarriesOut stamp statement (.select table condition (.section "id" limit offset)) where
  text := Statement.text_written hwritten
  done := by
    have hfound : (db.tables table).filter (condition.holds statement.params) =
        (rows.filter isFound).map toRow := by
      rw [hrows, List.filter_map]
      exact congrArg (List.map toRow) (List.filter_congr fun row _ => hcondition row)
    have hsorted : ((rows.filter isFound).map toRow).mergeSort (Extent.precedes "id") =
        ((rows.filter isFound).mergeSort fun a b => id a ≤ id b).map toRow := by
      refine (List.map_mergeSort fun a _ b _ => ?_).symm
      simp only [Extent.precedes, hid]
    have hshownAll : ∀ found : List α, (found.map toRow).map (Shown.ofTable table).take = found.map toRow := by
      intro found
      rw [List.map_map]
      exact List.map_congr_left fun row _ => hshown row
    rw [hexecute, Written.run, hfound, Extent.read, Extent.count?, Extent.count?, hlimit, hoffset, hsorted, page]
    by_cases hl : window.limit < 0
    · simp only [if_pos hl]
      rfl
    by_cases ho : window.offset < 0
    · simp only [if_neg hl, if_pos ho]
      rfl
    simp only [if_neg hl, if_neg ho, bind, Except.bind, pure, Except.pure, Option.getD_some, Option.elim_some,
      ← List.map_drop, ← List.map_take, hshownAll]
    rfl

end Database
end Passbook
