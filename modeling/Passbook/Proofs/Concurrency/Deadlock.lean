import Passbook.Proofs.Concurrency.LockOrder

/-!
# No deadlock

Any number of services run at the same time, each on a connection of its own, and compete for the locks
of rows. Only locks are kept here: a row that is locked by one transaction is not locked by another until
the first has ended, and everything else is answered in any way at any time, as long as the rows that come
back are those that were asked for. A transaction ends by COMMIT or ROLLBACK, or because the database
gives it up. A service may turn away from a statement that still waits for its row; then it is the
transaction that waits, and ROLLBACK is not answered before the wait is over.

Transfers and confirmations lock in one order, so a transaction only ever waits for a row that comes
after every row it holds.
-/
namespace Passbook

open Service (Event claims)

/-- COMMIT or ROLLBACK was acknowledged. -/
def Service.Event.EndsTransaction : Event → Prop
  | ⟨.send .commit, .ok _⟩ | ⟨.send .rollback, .ok _⟩ => True
  | _ => False

structure Locks where
  held : List Key := []
  /-- the row that a statement waits for although the service has turned away from it -/
  awaited? : Option Key := none

namespace Locks

/-- What becomes of the locks when a request is answered. `free` tells the rows that no other transaction
holds. -/
inductive Answers (free : Key → Prop) : Event → Locks → Locks → Prop
  | unconcerned {event locks} : event.1.locks? = none → ¬event.EndsTransaction →
      Answers free event locks locks
  | ended {event held} : event.EndsTransaction → Answers free event ⟨held, none⟩ ⟨[], none⟩
  /-- Whatever is answered then, the row is locked. -/
  | locked {event key held} : event.1.locks? = some key → free key →
      Answers free event ⟨held, none⟩ ⟨key :: held, none⟩
  /-- The statement has failed, or there is no such row. -/
  | unlocked {event key held} : event.1.locks? = some key →
      (∀ answer, event.answer? = some answer → answer.rows = []) →
      Answers free event ⟨held, none⟩ ⟨held, none⟩
  | overdue {statement patience key held} : Statement.locks? statement = some key →
      Answers free ⟨.sendWithin statement patience, .overdue⟩ ⟨held, none⟩ ⟨held, some key⟩

/-- What may become of the locks without an answer. -/
inductive Drifts (free : Key → Prop) : Locks → Locks → Prop
  | locked {key held} : free key → Drifts free ⟨held, some key⟩ ⟨key :: held, none⟩
  | canceled {key held} : Drifts free ⟨held, some key⟩ ⟨held, none⟩
  /-- The database gives up the transaction, as when its connection is lost or given back. -/
  | undone {locks} : Drifts free locks ⟨[], none⟩

variable {free : Key → Prop} {locks locks' : Locks} {key : Key}

/-- A row that is newly locked was free. -/
theorem Answers.held {event : Event} (h : Answers free event locks locks') (hkey : key ∈ locks'.held) :
    key ∈ locks.held ∨ free key := by
  cases h with
  | unconcerned | unlocked | overdue => exact .inl hkey
  | ended => cases hkey
  | locked _ hfree =>
      rcases List.mem_cons.mp hkey with rfl | hkey
      · exact .inr hfree
      · exact .inl hkey

theorem Drifts.held (h : Drifts free locks locks') (hkey : key ∈ locks'.held) :
    key ∈ locks.held ∨ free key := by
  cases h with
  | locked hfree =>
      rcases List.mem_cons.mp hkey with rfl | hkey
      · exact .inr hfree
      · exact .inl hkey
  | canceled => exact .inl hkey
  | undone => cases hkey

end Locks

/-- A service that runs, with what it has heard so far and the locks of its transaction. -/
structure Contender (α : Type) where
  rest : Service α
  past : List Event := []
  locks : Locks := {}

namespace Contender

variable {α : Type}

/-- Whether a row is the one whose lock comes next. -/
def Wants (c : Contender α) (key : Key) : Prop :=
  c.locks.awaited? = some key ∨
    c.locks.awaited? = none ∧ ∃ action next, c.rest = .ask action next ∧ action.locks? = some key

/-- Whether there is anything left, of the service or of its transaction. -/
def IsUnfinished (c : Contender α) : Prop :=
  (∃ action next, c.rest = .ask action next) ∨ c.locks.held ≠ [] ∨ c.locks.awaited? ≠ none

/-- A service that locks in order, and whose transaction holds nothing else. -/
structure Orderly (c : Contender α) : Prop where
  keeps : c.rest.Keeps LocksInOrder (fun _ _ => True) c.past
  faithful : ∀ event ∈ c.past, event.IsFaithful
  claimed : ∀ key ∈ c.locks.held, key ∈ claims c.past
  awaited : ∀ key, c.locks.awaited? = some key →
    key ∈ claims c.past ∧ ∀ earlier ∈ claims c.past, earlier = key ∨ earlier.Before key

variable {free : Key → Prop} {c : Contender α}

/-- The next row comes after the rows that are held, unless it is one of them. -/
theorem Orderly.before_of_wants (h : c.Orderly) {key held : Key} (hkey : c.Wants key)
    (hheld : held ∈ c.locks.held) : held = key ∨ held.Before key := by
  rcases hkey with hawaited | ⟨-, action, next, hrest, hlocks⟩
  · exact (h.awaited key hawaited).2 held (h.claimed held hheld)
  · have hkeeps := h.keeps
    rw [hrest] at hkeeps
    exact hkeeps.1 h.faithful key hlocks held (h.claimed held hheld)

theorem Orderly.answered (h : c.Orderly) {action : Service.Action} {next : action.Answer → Service α}
    {answer : action.Answer} {locks : Locks} (hrest : c.rest = .ask action next)
    (hfaithful : Event.IsFaithful ⟨action, answer⟩)
    (hanswers : Locks.Answers free ⟨action, answer⟩ c.locks locks) :
    (⟨next answer, c.past ++ [⟨action, answer⟩], locks⟩ : Contender α).Orderly := by
  have hkeeps := h.keeps
  rw [hrest] at hkeeps
  have hclaims := Service.claims_append_singleton c.past ⟨action, answer⟩
  have hearlier : ∀ key ∈ claims c.past, key ∈ claims (c.past ++ [⟨action, answer⟩]) := fun key hkey => by
    rw [hclaims]
    exact List.mem_append_left _ hkey
  have hasked : ∀ key, action.locks? = some key → key ∈ claims (c.past ++ [⟨action, answer⟩]) :=
    fun key hkey => by
      rw [hclaims, hkey]
      exact List.mem_append_right _ (List.mem_singleton_self key)
  have hclaimed := h.claimed
  have hawaited := h.awaited
  refine ⟨hkeeps.2 answer, ?_, ?_, ?_⟩
  · intro event hevent
    rcases List.mem_append.mp hevent with hevent | hevent
    · exact h.faithful event hevent
    · rw [List.mem_singleton.mp hevent]
      exact hfaithful
  · generalize c.locks = before at hanswers hclaimed
    cases hanswers with
    | unconcerned => exact fun key hkey => hearlier key (hclaimed key hkey)
    | ended => exact fun _ hkey => nomatch hkey
    | locked hlocks =>
        intro key' hkey'
        rcases List.mem_cons.mp hkey' with rfl | hkey'
        · exact hasked key' hlocks
        · exact hearlier key' (hclaimed key' hkey')
    | unlocked => exact fun key hkey => hearlier key (hclaimed key hkey)
    | overdue => exact fun key hkey => hearlier key (hclaimed key hkey)
  · generalize c.locks = before at hanswers hawaited
    cases hanswers with
    | unconcerned hnone =>
        rw [hclaims, hnone, Option.toList_none, List.append_nil]
        exact hawaited
    | ended | locked | unlocked => exact nofun
    | @overdue _ _ key _ hlocks =>
        rintro _ ⟨rfl⟩
        refine ⟨hasked key hlocks, fun earlier hmem => ?_⟩
        rw [hclaims] at hmem
        rcases List.mem_append.mp hmem with hmem | hmem
        · exact hkeeps.1 h.faithful key hlocks earlier hmem
        · simp only [Service.Action.locks?, hlocks, Option.toList_some] at hmem
          exact .inl (List.mem_singleton.mp hmem)

theorem Orderly.drifted (h : c.Orderly) {locks : Locks} (hdrifts : Locks.Drifts free c.locks locks) :
    ({ c with locks } : Contender α).Orderly := by
  have hclaimed := h.claimed
  have hawaited := h.awaited
  refine ⟨h.keeps, h.faithful, ?_, ?_⟩
  · generalize c.locks = before at hdrifts hclaimed hawaited
    cases hdrifts with
    | locked =>
        intro key' hkey'
        rcases List.mem_cons.mp hkey' with rfl | hkey'
        · exact (hawaited key' rfl).1
        · exact hclaimed key' hkey'
    | canceled => exact hclaimed
    | undone => exact fun _ hkey => nomatch hkey
  · generalize c.locks = before at hdrifts
    cases hdrifts <;> exact nofun

end Contender

abbrev Contenders {ι : Type} (α : ι → Type) : Type := (i : ι) → Contender (α i)

namespace Contenders

variable {ι : Type} {α : ι → Type}

/-- Whether no other transaction than that of `i` holds a row. -/
def free (s : Contenders α) (i : ι) (key : Key) : Prop := ∀ j, j ≠ i → key ∉ (s j).locks.held

/-- Whether `i` can only go on when `j` has ended: it is to lock a row that `j` holds. -/
def WaitsFor (s : Contenders α) (i j : ι) : Prop :=
  j ≠ i ∧ ∃ key, (s i).Wants key ∧ key ∈ (s j).locks.held

section Steps
variable [DecidableEq ι]

inductive Step : Contenders α → Contenders α → Prop
  | answered {s : Contenders α} {i : ι} {action next} {answer : action.Answer} {locks : Locks} :
      (s i).rest = .ask action next → Event.IsFaithful ⟨action, answer⟩ →
      Locks.Answers (s.free i) ⟨action, answer⟩ (s i).locks locks →
      Step s (Function.update s i ⟨next answer, (s i).past ++ [⟨action, answer⟩], locks⟩)
  | drifted {s : Contenders α} {i : ι} {locks : Locks} :
      Locks.Drifts (s.free i) (s i).locks locks → Step s (Function.update s i { s i with locks })

/-- Everything that the services can come to, in any order of steps. -/
def Reaches (services : (i : ι) → Service (α i)) (s : Contenders α) : Prop :=
  Relation.ReflTransGen Step (fun i => ⟨services i, [], {}⟩) s

end Steps

/-- Everybody locks in order, and no row is locked twice. -/
structure Orderly (s : Contenders α) : Prop where
  each : ∀ i, (s i).Orderly
  exclusive : ∀ i j key, i ≠ j → key ∈ (s i).locks.held → key ∉ (s j).locks.held

namespace Orderly

variable {s s' : Contenders α}

section Steps
variable [DecidableEq ι]

theorem update (h : s.Orderly) {i : ι} {c : Contender (α i)} (hc : c.Orderly)
    (hheld : ∀ key ∈ c.locks.held, key ∈ (s i).locks.held ∨ s.free i key) :
    Orderly (Function.update s i c) := by
  refine ⟨fun j => ?_, fun j k key hne hj hk => ?_⟩
  · by_cases hij : j = i
    · subst hij
      rw [Function.update_self]
      exact hc
    · rw [Function.update_of_ne hij]
      exact h.each j
  · -- At most one of the two is the one that has moved.
    by_cases hji : j = i
    · subst hji
      rw [Function.update_self] at hj
      rw [Function.update_of_ne hne.symm] at hk
      rcases hheld key hj with hj | hfree
      · exact h.exclusive j k key hne hj hk
      · exact hfree k hne.symm hk
    · rw [Function.update_of_ne hji] at hj
      by_cases hki : k = i
      · subst hki
        rw [Function.update_self] at hk
        rcases hheld key hk with hk | hfree
        · exact h.exclusive j k key hne hj hk
        · exact hfree j hne hj
      · rw [Function.update_of_ne hki] at hk
        exact h.exclusive j k key hne hj hk

theorem step (h : s.Orderly) (hstep : Step s s') : s'.Orderly := by
  cases hstep with
  | answered hrest hfaithful hanswers =>
      exact h.update ((h.each _).answered hrest hfaithful hanswers) fun _ => hanswers.held
  | drifted hdrifts => exact h.update ((h.each _).drifted hdrifts) fun _ => hdrifts.held

theorem of_reaches {services : (i : ι) → Service (α i)}
    (hservices : ∀ i, (services i).Keeps LocksInOrder (fun _ _ => True) [])
    (hreaches : Reaches services s) : s.Orderly := by
  induction hreaches with
  | refl =>
      refine ⟨fun i => ⟨hservices i, ?_, ?_, nofun⟩, ?_⟩
      · exact fun _ hevent => absurd hevent List.not_mem_nil
      · exact fun _ hkey => absurd hkey List.not_mem_nil
      · exact fun _ _ _ _ hkey => absurd hkey List.not_mem_nil
  | tail _ hstep ih => exact ih.step hstep

end Steps

/-- Along a chain of waits the rows do not go down. -/
theorem chain (h : s.Orderly) {i j : ι} (hwaits : Relation.TransGen s.WaitsFor i j) :
    ∃ first last, (s i).Wants first ∧ (∃ k, k ≠ i ∧ first ∈ (s k).locks.held) ∧
      last ∈ (s j).locks.held ∧ (first = last ∨ first.Before last) := by
  induction hwaits with
  | single hwaits =>
      obtain ⟨hne, key, hwants, hheld⟩ := hwaits
      exact ⟨key, key, hwants, ⟨_, hne, hheld⟩, hheld, .inl rfl⟩
  | tail _ hwaits ih =>
      obtain ⟨first, last, hwants, hothers, hlast, hle⟩ := ih
      obtain ⟨-, key, hkey, hheld⟩ := hwaits
      refine ⟨first, key, hwants, hothers, hheld, ?_⟩
      rcases (h.each _).before_of_wants hkey hlast with rfl | hlt
      · exact hle
      · rcases hle with rfl | hle
        · exact .inr hlt
        · exact .inr (hle.trans hlt)

theorem acyclic (h : s.Orderly) (i : ι) : ¬Relation.TransGen s.WaitsFor i i := by
  intro hcycle
  obtain ⟨first, last, hwants, ⟨k, hne, hfirst⟩, hlast, hle⟩ := h.chain hcycle
  rcases (h.each i).before_of_wants hwants hlast with rfl | hlt
  · exact h.exclusive k i last hne hfirst hlast
  · rcases hle with rfl | hle
    · exact hlt.irrefl
    · exact (hle.trans hlt).irrefl

/-- Whoever waits has, at the end of a chain of waits, somebody who does not wait. -/
theorem exists_not_waiting [Finite ι] (h : s.Orderly) (i : ι) :
    ∃ j, Relation.ReflTransGen s.WaitsFor i j ∧ ∀ k, ¬s.WaitsFor j k := by
  have hwf : WellFounded (Function.swap (Relation.TransGen s.WaitsFor)) := by
    have : IsTrans ι (Function.swap (Relation.TransGen s.WaitsFor)) := ⟨fun _ _ _ h h' => h'.trans h⟩
    have : Std.Irrefl (Function.swap (Relation.TransGen s.WaitsFor)) := ⟨h.acyclic⟩
    exact Finite.wellFounded_of_trans_of_irrefl _
  induction i using hwf.induction with
  | h i ih =>
      by_cases hwaits : ∃ j, s.WaitsFor i j
      · obtain ⟨j, hwaits⟩ := hwaits
        obtain ⟨k, hchain, hfree⟩ := ih j (.single hwaits)
        exact ⟨k, .head hwaits hchain, hfree⟩
      · exact ⟨i, .refl, fun k hk => hwaits ⟨k, hk⟩⟩

end Orderly

end Contenders

inductive Locking where
  | transfer (order : TransferOrder)
  | confirm (confirmation : Confirmation)

namespace Locking

abbrev Receipt : Locking → Type
  | .transfer _ => TransferReceipt
  | .confirm _ => ConfirmationReceipt

def execute (limit : Nat) : (locking : Locking) → Service (Except Failure locking.Receipt)
  | .transfer order => order.execute limit
  | .confirm confirmation => confirmation.execute limit

theorem execute_locksInOrder (limit : Nat) (locking : Locking) :
    (locking.execute limit).Keeps LocksInOrder (fun _ _ => True) [] := by
  cases locking with
  | transfer order => exact order.execute_locksInOrder limit
  | confirm confirmation => exact confirmation.execute_locksInOrder limit

end Locking

namespace Contenders

variable {ι : Type} [DecidableEq ι]

/-- However the requests of transfers and confirmations are interleaved, nobody waits in a circle; so, as
long as there are finitely many, whoever is unfinished is not waiting, or waits through others for
somebody unfinished who is not. -/
theorem no_deadlock {limit : ι → Nat} {lockings : ι → Locking}
    {s : Contenders fun i => Except Failure (lockings i).Receipt}
    (h : Reaches (fun i => (lockings i).execute (limit i)) s) :
    (∀ i, ¬Relation.TransGen s.WaitsFor i i) ∧
      (Finite ι → ∀ i, (s i).IsUnfinished →
        ∃ j, Relation.ReflTransGen s.WaitsFor i j ∧ (s j).IsUnfinished ∧ ∀ k, ¬s.WaitsFor j k) := by
  have horderly := Orderly.of_reaches (fun i => (lockings i).execute_locksInOrder (limit i)) h
  refine ⟨horderly.acyclic, fun _ i hunfinished => ?_⟩
  obtain ⟨j, hchain, hfree⟩ := horderly.exists_not_waiting i
  refine ⟨j, hchain, ?_, hfree⟩
  rcases Relation.ReflTransGen.cases_tail hchain with rfl | ⟨k, -, -, key, -, hheld⟩
  · exact hunfinished
  · exact .inr (.inl (List.ne_nil_of_mem hheld))

section Example
variable {α : ι → Type} {services : (i : ι) → Service (α i)} {s : Contenders α} {i : ι}

theorem Reaches.quiet (h : Reaches services s) (action : Service.Action)
    {next : action.Answer → Service (α i)} (hrest : (s i).rest = .ask action next) (answer : action.Answer)
    (hlocks : action.locks? = none) (hends : ¬Event.EndsTransaction ⟨action, answer⟩) :
    Reaches services
      (Function.update s i ⟨next answer, (s i).past ++ [⟨action, answer⟩], (s i).locks⟩) :=
  h.tail (.answered hrest (fun _ _ hkey => nomatch hlocks.symm.trans hkey) (.unconcerned hlocks hends))

theorem Reaches.begun {β : ι → Type} {services : (i : ι) → Service (Except Failure (β i))}
    {s : Contenders fun i => Except Failure (β i)} (h : Reaches services s) (limit : Nat)
    (body : Script (β i)) (hrest : (s i).rest = atomically limit body) :
    ∃ past, Reaches services
      (Function.update s i ⟨(Script.within limit body.run).bind conclude, past, (s i).locks⟩) := by
  rw [atomically_eq] at hrest
  have hopened := h.quiet _ hrest (.ok ()) rfl id
  have hbegun := hopened.quiet (i := i) (.send .begin) (by rw [Function.update_self])
    (.ok ⟨[], 0⟩) rfl id
  have hlimited := hbegun.quiet (i := i) (.send (.limit limit)) (by rw [Function.update_self])
    (.ok ⟨[], 0⟩) rfl id
  simp only [Function.update_idem, Function.update_self] at hlimited
  exact ⟨_, hlimited⟩

end Example

def link : Confirmation := ⟨5, "secret"⟩

/-- Of two clients with one link the first has locked the record and the second is to lock it. -/
theorem no_deadlock_one_link :
    ∃ s : Contenders fun _ : Bool => Except Failure ConfirmationReceipt,
      Reaches (fun _ => (Locking.confirm link).execute 1000) s ∧ s.WaitsFor false true ∧
        ¬Relation.TransGen s.WaitsFor false false := by
  have hstart : Reaches (fun _ : Bool => (Locking.confirm link).execute 1000) _ := .refl
  obtain ⟨_, hfirst⟩ := hstart.begun (i := true) 1000 link.script rfl
  obtain ⟨_, hboth⟩ := hfirst.begun (i := false) 1000 link.script rfl
  obtain ⟨next, hscript⟩ : ∃ next, (Script.within 1000 link.script.run).bind conclude =
    .ask (.sendWithin (.lockVerification 5) 1000) next := by
    rw [Confirmation.script, Script.run_query_bind, Script.within]
    exact ⟨_, rfl⟩
  rw [hscript] at hboth
  have hlocked := hboth.tail (@Step.answered _ _ _ _ true (.sendWithin (.lockVerification 5) 1000) next
    (.inTime 2 (.ok ⟨[[("id", .int 5)]], 1⟩)) ⟨[.verification 5], none⟩ rfl ?_ (.locked rfl ?_))
  · exact ⟨_, hlocked, ⟨Bool.noConfusion, .verification 5, .inr ⟨rfl, _, next, rfl, rfl⟩, List.mem_singleton_self _⟩,
      (@no_deadlock Bool _ (fun _ => 1000) (fun _ => .confirm link) _ hlocked).1 _⟩
  · rintro _ _ ⟨rfl⟩ ⟨rfl⟩ row hrow
    cases List.mem_singleton.mp hrow
    rfl
  · intro j hne hmem
    cases j with
    | false => cases hmem
    | true => exact hne rfl

end Contenders

end Passbook
