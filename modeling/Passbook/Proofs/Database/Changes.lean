import Passbook.Proofs.Database.AsWritten
import Passbook.Proofs.Transaction.Replay

/-!
# Changes of a user

A change sets the columns that it names and leaves everything else as it is: the other columns of the user,
the other users and the other tables. It fails if there is no such user or if the address that it names
belongs to somebody else, and then it leaves the tables alone. Two changes of one user, one after the other,
are the single change in which the second has precedence. A confirmation changes whether the address is
verified and nothing else.
-/
namespace Passbook

variable {α : Type} {outside : (action : Service.Action) → action.Answer}

/-- Whether a column takes the value that is given, or keeps its own if there is none. -/
def Sets (given? : Option α) (old new : α) : Prop :=
  (∀ value, given? = some value → new = value) ∧ (given? = none → new = old)

theorem sets_iff {given? : Option α} {old new : α} : Sets given? old new ↔ new = given?.getD old := by
  cases given? with
  | none => exact ⟨fun h => h.2 rfl, fun h => ⟨nofun, fun _ => h⟩⟩
  | some value => exact ⟨fun h => h.1 value rfl, fun h => ⟨fun _ heq => Option.some.inj heq ▸ h, nofun⟩⟩

namespace UserChange

/-- The change that consists of a change and another one of the same user behind it. -/
def followedBy (first second : UserChange) : UserChange where
  username := first.username
  passwordDigest := second.passwordDigest.or first.passwordDigest
  passwordChangedAt := second.passwordChangedAt.or first.passwordChangedAt
  fullName := second.fullName.or first.fullName
  email := second.email.or first.email
  isEmailVerified := second.isEmailVerified.or first.isEmailVerified

end UserChange

namespace Database

variable {db : Database} {change : UserChange}

/-- Whether the address that a change names belongs to somebody else. -/
def Takes (db : Database) (change : UserChange) : Prop :=
  ∃ other ∈ db.users.rows, other.username ≠ change.username ∧ change.email = some other.email

theorem takesEmail_iff : db.takesEmail change = true ↔ db.Takes change := by
  unfold takesEmail Takes
  cases change.email with
  | none => simp
  | some email =>
      simp only [List.any_eq_true, Bool.and_eq_true, bne_iff_ne, beq_iff_eq, Option.some.injEq]
      exact exists_congr fun other => and_congr_right fun _ => and_congr_right fun _ => eq_comm

@[simp] theorem username_changed (user : User) (change : UserChange) :
    (changed user change).username = user.username := rfl

def usersAfter (db : Database) (change : UserChange) : List User :=
  db.users.rows.map fun user => if user.username = change.username then changed user change else user

/-- The addresses stay distinct unless one of them is given to a second user. -/
theorem nodup_usersAfter (hunique : (db.users.rows.map User.email).Nodup) (hfree : ¬db.Takes change) :
    ((db.usersAfter change).map User.email).Nodup := by
  have hrows : db.users.rows.Nodup := .of_map _ db.users.distinct
  rw [usersAfter, List.map_map, List.nodup_map_iff_inj_on hrows]
  have hname := List.inj_on_of_nodup_map db.users.distinct
  have hemail := List.inj_on_of_nodup_map hunique
  have hmixed : ∀ a ∈ db.users.rows, ∀ b ∈ db.users.rows, a.username = change.username →
      b.username ≠ change.username → (changed a change).email ≠ b.email := by
    intro a ha b hb hsame hother heq
    cases hgiven : change.email with
    | none =>
        rw [changed, hgiven, Option.getD_none] at heq
        exact hother (hemail ha hb heq ▸ hsame)
    | some email =>
        rw [changed, hgiven, Option.getD_some] at heq
        exact hfree ⟨b, hb, hother, hgiven.trans (congrArg some heq)⟩
  intro a ha b hb heq
  simp only [Function.comp_apply] at heq
  by_cases hasame : a.username = change.username <;> by_cases hbsame : b.username = change.username
  · exact hname ha hb (hasame.trans hbsame.symm)
  · rw [if_pos hasame, if_neg hbsame] at heq
    exact absurd heq (hmixed a ha b hb hasame hbsame)
  · rw [if_neg hasame, if_pos hbsame] at heq
    exact absurd heq.symm (hmixed b hb a ha hbsame hasame)
  · rw [if_neg hasame, if_neg hbsame] at heq
    exact hemail ha hb heq

theorem rows_put_changed {user : User} (h : db.users.find change.username = some user) :
    (db.users.put (changed user change)).rows = db.usersAfter change :=
  Table.rows_put_of_find (fun user => changed user change) h (Table.find_eq_some.mp h).2

theorem changed_changed (user : User) (first second : UserChange) :
    changed (changed user first) second = changed user (first.followedBy second) := by
  have hor : ∀ {β : Type} (a? b? : Option β) (value : β), a?.getD (b?.getD value) = (a?.or b?).getD value := by
    intro β a? b? value
    cases a? <;> rfl
  simp only [changed, UserChange.followedBy, hor]

end Database

namespace UserChange

/-- Whether a change makes a user of another one. -/
structure Makes (change : UserChange) (old new : User) : Prop where
  username : new.username = old.username
  passwordDigest : Sets change.passwordDigest old.passwordDigest new.passwordDigest
  fullName : Sets change.fullName old.fullName new.fullName
  email : Sets change.email old.email new.email
  passwordChangedAt : Sets change.passwordChangedAt old.passwordChangedAt new.passwordChangedAt
  isEmailVerified : Sets change.isEmailVerified old.isEmailVerified new.isEmailVerified
  createdAt : new.createdAt = old.createdAt

theorem makes_iff {change : UserChange} {old new : User} :
    change.Makes old new ↔ new = Database.changed old change := by
  constructor
  · rintro ⟨husername, hdigest, hfullName, hemail, hchangedAt, hverified, hcreatedAt⟩
    rw [sets_iff] at hdigest hfullName hemail hchangedAt hverified
    obtain ⟨_, _, _, _, _, _, _⟩ := new
    simp only at husername hdigest hfullName hemail hchangedAt hverified hcreatedAt
    subst husername hdigest hfullName hemail hchangedAt hverified hcreatedAt
    rfl
  · rintro rfl
    constructor <;> first | rfl | exact sets_iff.mpr rfl

/-- What comes of a change: its result, and the tables behind it. -/
structure Performed (change : UserChange) (db : Database) (result : Except Failure User)
    (db' : Database) : Prop where
  /-- the user is given back as it stands in its row, and no other row is changed -/
  made : ∀ user, result = .ok user → ∃ old, db.users.find change.username = some old ∧
    change.Makes old user ∧ db'.users.find change.username = some user ∧
    db'.users.rows = db.users.rows.map fun other => if other.username = change.username then user else other
  succeeds : (∃ user, result = .ok user) ↔ (db.users.find change.username).isSome ∧ ¬db.Takes change
  notFound : result = .error .notFound ↔ db.users.find change.username = none
  duplicateIdentity : result = .error .duplicateIdentity ↔
    (db.users.find change.username).isSome ∧ db.Takes change
  unchanged : ∀ failure, result = .error failure → db' = db
  others : db' = { db with users := db'.users }

end UserChange

namespace Server

variable {s : Server} {change : UserChange}

theorem run_pooled (query : Query α) (s : Server) :
    (Service.pooled query).run (surroundings outside) s =
      (query.result (s.execute query.statement).1, (s.execute query.statement).2) := rfl

/-- A change of a user on a connection of the pool. -/
def update (outside : (action : Service.Action) → action.Answer) (s : Server) (change : UserChange) :
    Except Failure User × Server :=
  (Service.pooled (.updateUser change)).run (surroundings outside) s

theorem update_cases (outside : (action : Service.Action) → action.Answer) (hidle : s.pending? = none)
    (change : UserChange) :
    s.committed.users.find change.username = none ∧ s.update outside change = (.error .notFound, s) ∨
    (s.committed.users.find change.username).isSome ∧ s.committed.Takes change ∧
      s.update outside change = (.error .duplicateIdentity, s) ∨
    ∃ old, s.committed.users.find change.username = some old ∧ ¬s.committed.Takes change ∧
      s.update outside change = (.ok (Database.changed old change),
        { s with committed := s.committed.put (.user (Database.changed old change)) }) := by
  obtain ⟨committed, _, sequences, now⟩ := s
  cases hidle
  simp only [update, run_pooled, Query.updateUser, execute, attempt, Sequences.draw, Database.execute,
    Database.updateUser]
  cases hfind : committed.users.find change.username with
  | none => exact .inl ⟨rfl, rfl⟩
  | some old =>
      by_cases htakes : committed.Takes change
      · simp only [Database.takesEmail_iff.mpr htakes, if_true]
        exact .inr (.inl ⟨rfl, htakes, rfl⟩)
      · simp only [mt Database.takesEmail_iff.mp htakes]
        exact .inr (.inr ⟨old, rfl, htakes, rfl⟩)

theorem update_performed (outside : (action : Service.Action) → action.Answer) (hidle : s.pending? = none)
    (change : UserChange) :
    change.Performed s.committed (s.update outside change).1 (s.update outside change).2.committed := by
  rcases update_cases outside hidle change with
    ⟨hnone, heq⟩ | ⟨hfound, htakes, heq⟩ | ⟨old, hfind, hfree, heq⟩
  · have hmissing : ¬(s.committed.users.find change.username).isSome := by rw [hnone]; nofun
    rw [heq]
    exact
      { made := nofun
        succeeds := iff_of_false nofun fun h => hmissing h.1
        notFound := iff_of_true rfl hnone
        duplicateIdentity := iff_of_false nofun fun h => hmissing h.1
        unchanged := fun _ _ => rfl
        others := rfl }
  · rw [heq]
    exact
      { made := nofun
        succeeds := iff_of_false nofun fun h => h.2 htakes
        notFound := iff_of_false nofun fun h => by rw [h] at hfound; cases hfound
        duplicateIdentity := iff_of_true rfl ⟨hfound, htakes⟩
        unchanged := fun _ _ => rfl
        others := rfl }
  · have hfound : (s.committed.users.find change.username).isSome := by rw [hfind]; rfl
    obtain ⟨-, hname⟩ := Table.find_eq_some.mp hfind
    have hkey : (Database.changed old change).username = change.username := hname
    rw [heq]
    constructor
    case made =>
      rintro user ⟨⟩
      refine ⟨old, hfind, UserChange.makes_iff.mpr rfl, ?_, ?_⟩
      · exact (Table.find_put ..).trans (if_pos hkey.symm)
      · rw [← hkey]
        exact Table.rows_put_of_old (hkey.symm ▸ hfind)
    case succeeds => exact iff_of_true ⟨_, rfl⟩ ⟨hfound, hfree⟩
    case notFound => exact iff_of_false nofun fun h => by rw [h] at hfound; cases hfound
    case duplicateIdentity => exact iff_of_false nofun fun h => hfree h.2
    case unchanged => nofun
    case others => rfl

theorem takes_followedBy {db : Database} {first second : UserChange} {old : User}
    (hfind : db.users.find first.username = some old) (hsame : second.username = first.username)
    (h : db.Takes (first.followedBy second)) :
    db.Takes first ∨ (db.put (.user (Database.changed old first))).Takes second := by
  obtain ⟨other, hother, hne, hgiven⟩ := h
  change other.username ≠ first.username at hne
  change second.email.or first.email = some other.email at hgiven
  cases hsecond : second.email with
  | none =>
      rw [hsecond, Option.none_or] at hgiven
      exact .inl ⟨other, hother, hne, hgiven⟩
  | some email =>
      rw [hsecond, Option.some_or] at hgiven
      have hkey : (Database.changed old first).username = first.username := (Table.find_eq_some.mp hfind).2
      have hstays : (db.users.put (Database.changed old first)).find other.username = some other := by
        rw [Table.find_put, hkey, if_neg hne, Table.find_of_mem hother]
      exact .inr ⟨other, (Table.find_eq_some.mp hstays).1, hsame ▸ hne, hsecond.trans hgiven⟩

/-- Two changes of a user that succeed come to the single change that they make together. -/
theorem update_followedBy (hidle : s.pending? = none) {first second : UserChange}
    (hsame : second.username = first.username) {user user' : User}
    (hfirst : (s.update outside first).1 = .ok user)
    (hsecond : ((s.update outside first).2.update outside second).1 = .ok user') :
    (s.update outside (first.followedBy second)).1 = .ok user' ∧
      (s.update outside (first.followedBy second)).2.committed =
        ((s.update outside first).2.update outside second).2.committed := by
  rcases update_cases outside hidle first with ⟨-, heq⟩ | ⟨-, -, heq⟩ | ⟨old, hfind, hfree, heq⟩
  · cases heq ▸ hfirst
  · cases heq ▸ hfirst
  have hkey : (Database.changed old first).username = first.username := (Table.find_eq_some.mp hfind).2
  rw [heq] at hsecond ⊢
  dsimp only at hsecond ⊢
  rcases update_cases (s := { s with committed := s.committed.put (.user (Database.changed old first)) })
    outside hidle second with ⟨-, heq'⟩ | ⟨-, -, heq'⟩ | ⟨old', hfind', hfree', heq'⟩
  · cases heq' ▸ hsecond
  · cases heq' ▸ hsecond
  -- The second change finds the user whom the first one has made.
  obtain rfl : Database.changed old first = old' := by
    have hput : (s.committed.users.put (Database.changed old first)).find second.username = some old' := hfind'
    rwa [Table.find_put, hsame, hkey, if_pos rfl, Option.some.injEq] at hput
  rw [heq'] at hsecond ⊢
  rcases update_cases outside hidle (first.followedBy second) with
    ⟨hnone, -⟩ | ⟨-, htakes, -⟩ | ⟨old', hold', -, hboth⟩
  · cases hnone.symm.trans hfind
  · exact absurd (takes_followedBy hfind hsame htakes) (not_or.mpr ⟨hfree, hfree'⟩)
  · obtain rfl : old = old' := Option.some.inj (hfind.symm.trans hold')
    have hsamekey : (Record.user (Database.changed old first)).key =
        (Record.user (Database.changed (Database.changed old first) second)).key := rfl
    rw [hboth, ← Database.changed_changed]
    exact ⟨hsecond, (Database.put_put hsamekey s.committed).symm⟩

/-- The addresses of users stay distinct. -/
theorem update_distinct (hidle : s.pending? = none)
    (hunique : (s.committed.users.rows.map User.email).Nodup) :
    ((s.update outside change).2.committed.users.rows.map User.email).Nodup := by
  rcases update_cases outside hidle change with ⟨-, heq⟩ | ⟨-, -, heq⟩ | ⟨old, hfind, hfree, heq⟩
  · rwa [heq]
  · rwa [heq]
  · rw [heq]
    change ((s.committed.users.put (Database.changed old change)).rows.map User.email).Nodup
    rw [Database.rows_put_changed hfind]
    exact Database.nodup_usersAfter hunique hfree

end Server

namespace Confirmation

/-- The change that a confirmation makes to a user. -/
def change (username : String) : UserChange := { username, isEmailVerified := some true }

theorem makes_change {username : String} {old new : User} :
    (change username).Makes old new ↔ new = { old with isEmailVerified := true } := UserChange.makes_iff

/-- A confirmation changes a user in no other way. -/
theorem script_sends (confirmation : Confirmation) :
    Script.Sends (fun statement => ∀ made, statement = .updateUser made → made = change made.username)
      confirmation.script.run := by
  refine Script.sends_query nofun fun found => Script.sends_clock fun now => ?_
  split
  · refine Script.sends_query nofun fun record => Script.sends_query ?_ fun user => Script.sends_pure _
    rintro _ ⟨⟩
    rfl
  · exact Script.sends_fail _

end Confirmation

namespace Server

/-- What is said of the changes of a user, for two of them, on a server. -/
structure ChangesUser (outside : (action : Service.Action) → action.Answer) (s : Server)
    (first second : UserChange) : Prop where
  /-- a change is the written update, with the values of its statement -/
  written : ∀ stamp, s.committed.CarriesOut stamp (.updateUser first)
    (.update .users [("hashed_password", .given 2), ("password_changed_at", .given 3), ("full_name", .given 4),
      ("email", .given 5), ("is_email_verified", .given 6)] (.equals "username" 1))
  performed : first.Performed s.committed (s.update outside first).1 (s.update outside first).2.committed
  distinct : ((s.update outside first).2.committed.users.rows.map User.email).Nodup
  composed : ∀ user user', (s.update outside first).1 = .ok user →
    ((s.update outside first).2.update outside second).1 = .ok user' →
      (s.update outside (first.followedBy second)).1 = .ok user' ∧
        (s.update outside (first.followedBy second)).2.committed =
          ((s.update outside first).2.update outside second).2.committed
  /-- a confirmation sends no other change of a user than one of the verification alone -/
  confirms : ∀ limit (confirmation : Confirmation),
    ∀ event ∈ (confirmation.execute limit).history (surroundings outside) s, ∀ change patience,
      event.1 = .sendWithin (.updateUser change) patience →
        change = { username := change.username, isEmailVerified := some true } ∧
          ∀ old new, change.Makes old new ↔ new = { old with isEmailVerified := true }
  /-- and one that succeeds changes no other column of any user -/
  confirmed : ∀ limit (confirmation : Confirmation) receipt,
    ((confirmation.execute limit).run (surroundings outside) s).1 = .ok receipt →
      ((confirmation.execute limit).run (surroundings outside) s).2.committed.users.rows =
        s.committed.users.rows.map fun other =>
          if other.username = receipt.record.username then { other with isEmailVerified := true } else other

/-- A change of a user is the update that its text says, touches what it names and nothing else, and two
changes in a row come to one. -/
theorem changes_user (outside : (action : Service.Action) → action.Answer) {s : Server}
    (hidle : s.pending? = none) (hunique : (s.committed.users.rows.map User.email).Nodup)
    {first second : UserChange} (hsame : second.username = first.username) :
    s.ChangesUser outside first second where
  written _ := Database.carriesOut_updateUser hunique first
  performed := update_performed outside hidle first
  distinct := update_distinct hidle hunique
  composed _ _ hfirst hsecond := update_followedBy hidle hsame hfirst hsecond
  confirms limit confirmation event hevent change patience heq := by
    have hsends := (atomically_sends confirmation.script_sends limit).asked (surroundings outside) s
    have hchange := (hsends event hevent).1 _ patience heq change rfl
    refine ⟨hchange, fun old new => ?_⟩
    rw [hchange]
    exact Confirmation.makes_change
  confirmed limit confirmation receipt h := by
    obtain ⟨now, huses⟩ := Confirmation.run_server hidle h
    exact huses.users

def alice : User := ⟨"alice", "digest", "Alice Liddell", "alice@old.example", ⟨0⟩, false, ⟨0⟩⟩

def bob : User := ⟨"bob", "digest", "Bob", "bob@bank.example", ⟨0⟩, true, ⟨0⟩⟩

def knowsAliceAndBob : Server := { committed := { users := ⟨[alice, bob], by decide⟩ } }

/-- Alice is given another address and then another name, which comes to one change. The address of Bob is
not given to her. -/
theorem changes_user_alice :
    (knowsAliceAndBob.update calm
        { username := "alice", fullName := some "Alice", email := some "alice@new.example" }).1 =
      .ok { alice with fullName := "Alice", email := "alice@new.example" } ∧
    (knowsAliceAndBob.update calm { username := "alice", email := some "bob@bank.example" }).1 =
      .error .duplicateIdentity := by
  have hmoved := @changes_user calm knowsAliceAndBob rfl (by decide)
    { username := "alice", email := some "alice@new.example" }
    { username := "alice", fullName := some "Alice" } rfl
  have htaken := @changes_user calm knowsAliceAndBob rfl (by decide)
    { username := "alice", email := some "bob@bank.example" }
    { username := "alice", fullName := some "Alice" } rfl
  refine ⟨(hmoved.composed { alice with email := "alice@new.example" } _ rfl rfl).1, ?_⟩
  refine htaken.performed.duplicateIdentity.mpr ⟨by decide, bob, by decide, by decide, rfl⟩

end Server
end Passbook
