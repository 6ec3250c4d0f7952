import Passbook.Proofs.Connection.Line

/-!
# Transactions on one connection

Whatever calls follow each other on one line, and whatever is replied, what is seen on it is a sequence of
transactions and single statements, one after the other. The proof follows three views of the connection
at once: how the service stands to it, how it is, and what has been seen on it. As long as the line is
connected the first and the last agree; once it is lost, nothing that the service does is seen.
-/
namespace Passbook

open Service (Event Action)

/-- What is to be expected on a connection after what has been seen. -/
inductive Phase where
  | closed
  | inTransaction
  /-- setting up, COMMIT or ROLLBACK has failed -/
  | failed
deriving DecidableEq

/-- The phase after a signal, if the signal is one that may be seen in this phase. -/
def Phase.after : Phase → Signal → Option Phase
  | _, .lost => some .closed
  | .closed, .control .begin true => some .inTransaction
  | .closed, .control .begin false | .closed, .single _ => some .closed
  | .inTransaction, .scripted _ | .inTransaction, .control (.limit _) true => some .inTransaction
  | .inTransaction, .control .commit true | .inTransaction, .control .rollback true => some .closed
  | .inTransaction, .control (.limit _) false | .inTransaction, .control .commit false
  | .inTransaction, .control .rollback false => some .failed
  | .failed, .control .rollback true => some .closed
  | .failed, .control .rollback false => some .failed
  | _, _ => none

def Phase.afterAll (phase : Phase) (stream : List Signal) : Option Phase := stream.foldlM Phase.after phase

theorem Phase.afterAll_append (phase : Phase) (stream stream' : List Signal) :
    phase.afterAll (stream ++ stream') = (phase.afterAll stream).bind (·.afterAll stream') :=
  List.foldlM_append

theorem Phase.afterAll_cons (phase : Phase) (signal : Signal) (stream : List Signal) :
    phase.afterAll (signal :: stream) = (phase.after signal).bind (·.afterAll stream) := rfl

theorem Phase.after_lost (phase : Phase) : phase.after .lost = some .closed := by
  cases phase <;> rfl

/-- Whether what a service knows of the connection fits to what has been seen on it; `up` tells whether
the line is connected. -/
def Grip.Fits (up : Bool) (phase : Phase) : Grip → Prop
  | .away | .held => phase = .closed
  | .inTransaction => phase = if up then .inTransaction else .closed
  | .spoiled => phase = .closed ↔ up = false

open Line (Hears Carries Serves Runs)

namespace Grip

theorem fits_down (grip : Grip) : grip.Fits false .closed := by
  cases grip <;> simp [Fits]

theorem Fits.send_error {grip grip' : Grip} {up : Bool} {phase : Phase} {command : Command}
    {fault : StorageFault} (h : grip.Fits up phase)
    (hafter : grip.after ⟨.send command, .error fault⟩ = some grip') : grip'.Fits up phase := by
  cases grip <;> cases command <;> cases hafter
  all_goals first
    | exact h
    | cases up <;> simp_all [Fits]

/-- A command that gets through may be seen, and its outcome tells what is seen. -/
theorem Fits.send_carried {grip grip' : Grip} {phase : Phase} {command : Command}
    {outcome : Except StorageFault Answer} (h : grip.Fits true phase)
    (hafter : grip.after ⟨.send command, outcome⟩ = some grip') :
    ∃ phase', phase.after (Signal.ofSend command outcome) = some phase' ∧ grip'.Fits true phase' := by
  cases grip <;> cases command <;> cases outcome <;> cases hafter <;> cases h <;>
    exact ⟨_, rfl, by simp [Fits]⟩

variable {grip grip' : Grip} {line line' : Line} {phase : Phase}

/-- Something that is sent, with its outcome, keeps the views together if it does so on a connected line,
and if its failure does so without anything having been seen. -/
theorem fits_of_carries {signal : Except StorageFault Answer → Signal}
    {outcome : Except StorageFault Answer} {signals : List Signal}
    (hcarries : line.Carries signal outcome signals line')
    (herror : ∀ fault, outcome = .error fault → grip'.Fits line.isConnected phase)
    (hcarried : line.isConnected = true →
      ∃ phase', phase.after (signal outcome) = some phase' ∧ grip'.Fits true phase') :
    ∃ phase', phase.afterAll signals = some phase' ∧ grip'.Fits line'.isConnected phase' := by
  cases hcarries with
  | unread _ hhears =>
      cases hhears with
      | stays => exact ⟨phase, rfl, herror _ rfl⟩
      | lost fault =>
          refine ⟨.closed, ?_, fits_down grip'⟩
          rw [Phase.afterAll_cons, Phase.after_lost]
          rfl
  | unconnected fault hdown => exact ⟨phase, rfl, herror fault rfl⟩
  | carried _ hup hhears =>
      obtain ⟨phase', hseen, hfits⟩ := hcarried hup
      cases hhears with
      | stays =>
          refine ⟨phase', ?_, hup ▸ hfits⟩
          rw [Phase.afterAll_cons, hseen]
          rfl
      | lost fault =>
          refine ⟨.closed, ?_, fits_down grip'⟩
          rw [Phase.afterAll_cons, hseen]
          exact (Phase.afterAll_cons ..).trans (by rw [Phase.after_lost]; rfl)

theorem Fits.serves {action : Action} {answer : action.Answer} {signals : List Signal}
    (h : grip.Fits line.isConnected phase) (hafter : grip.after ⟨action, answer⟩ = some grip')
    (hserves : line.Serves action answer signals line') :
    ∃ phase', phase.afterAll signals = some phase' ∧ grip'.Fits line'.isConnected phase' := by
  cases hserves with
  | reused | opened | refused =>
      cases grip <;> cases hafter
      exact ⟨phase, rfl, h⟩
  | send hcarries =>
      refine fits_of_carries hcarries (fun fault hfault => ?_) fun hup => ?_
      · subst hfault
        exact h.send_error hafter
      · exact (hup ▸ h).send_carried hafter
  | sendWithin after hcarries =>
      cases grip <;> cases hafter
      refine fits_of_carries hcarries (fun _ _ => h) fun hup => ?_
      rw [hup] at h
      cases h
      exact ⟨.inTransaction, rfl, rfl⟩
  | overdue unread _ hup =>
      cases grip <;> cases hafter
      rw [hup] at h
      cases h
      exact ⟨.inTransaction, rfl, by simp [Fits, hup]⟩
  | kept =>
      cases grip <;> cases hafter
      exact ⟨phase, rfl, h⟩
  | gone hdown =>
      cases grip <;> cases hafter
      exact ⟨phase, rfl, h.mpr hdown⟩
  | undone hup =>
      cases grip <;> cases hafter
      cases phase with
      | closed => exact absurd (h.mp rfl) (by simp [hup])
      | inTransaction => exact ⟨.closed, rfl, rfl⟩
      | failed => exact ⟨.closed, rfl, rfl⟩
  | abandoned hup =>
      cases grip <;> cases hafter
      cases phase with
      | closed => exact absurd (h.mp rfl) (by simp [hup])
      | inTransaction => exact ⟨.closed, rfl, rfl⟩
      | failed => exact ⟨.closed, rfl, rfl⟩
  | clock | announce | salt | codeDraws | deliver =>
      cases grip <;> cases hafter <;> exact ⟨phase, rfl, h⟩

end Grip

/-- A service that does only what its grip allows keeps the views together until its end. -/
theorem Grip.Suits.runs {α : Type} {ends : α → Grip → Prop} {grip : Grip} {line line' : Line}
    {phase : Phase} {p : Service α} {value : α} {stream : List Signal} (h : grip.Suits ends p)
    (hfits : grip.Fits line.isConnected phase) (hruns : Runs line p value stream line') :
    ∃ grip' phase', ends value grip' ∧ phase.afterAll stream = some phase' ∧
      grip'.Fits line'.isConnected phase' := by
  induction hruns generalizing grip phase with
  | done => exact ⟨grip, phase, h, rfl, hfits⟩
  | @ask _ _ _ answer _ _ _ _ _ hserves _ ih =>
      obtain ⟨grip₁, hafter, hrest⟩ := h answer
      obtain ⟨phase₁, hsignals, hfits₁⟩ := hfits.serves hafter hserves
      obtain ⟨grip₂, phase₂, hends, hlater, hfits₂⟩ := ih hrest hfits₁
      refine ⟨grip₂, phase₂, hends, ?_, hfits₂⟩
      rw [Phase.afterAll_append, hsignals]
      exact hlater

/-- Nothing is left open on the line by a service that is tidy. -/
theorem Service.IsTidy.afterAll {α : Type} {line line' : Line} {p : Service α} {value : α}
    {stream : List Signal} (h : p.IsTidy) (hruns : Runs line p value stream line') :
    Phase.closed.afterAll stream = some .closed := by
  have hclosed : Grip.away.Fits line.isConnected .closed := rfl
  obtain ⟨grip, phase, rfl, hstream, rfl⟩ := h.runs hclosed hruns
  exact hstream

inductive Call : {α : Type} → Service α → Prop
  /-- any number of queries on one connection, among them a single pooled one -/
  | queries {α : Type} {body : Service (Except Failure α)} :
      body.OnlyQueries → Call (Service.onConnection body)
  | transaction {α : Type} (limit : Nat) (body : Script α) : Call (atomically limit body)
  | transfer (limit : Nat) (order : TransferOrder) : Call (order.execute limit)
  | registration (limit : Nat) (user : NewUser) (hook : Hook) : Call (user.register limit hook)
  | confirmation (limit : Nat) (confirmation : Confirmation) : Call (confirmation.execute limit)
  | request (limit : Nat) (request : Http.Request) : Call (Http.respond limit request)
  | task (base : String) (task : Task) : Call (task.process base)

theorem Call.pooled {α : Type} (query : Query α) : Call (Service.pooled query) :=
  .queries (Service.query_onlyQueries query)

theorem Call.isTidy {α : Type} {service : Service α} (h : Call service) : service.IsTidy := by
  cases h with
  | queries hbody => exact Service.onConnection_isTidy hbody
  | transaction limit body => exact atomically_isTidy limit body
  | transfer limit order => exact order.execute_isTidy limit
  | registration limit user hook => exact atomically_isTidy limit (user.script hook)
  | confirmation limit confirmation => exact atomically_isTidy limit confirmation.script
  | request limit request => exact Http.respond_isTidy limit request
  | task base task => exact task.process_isTidy base

/-- Calls one after the other on one line, each with the stream of what is seen of it. Between two calls
the connection may be lost. -/
inductive Line.Hosts : Line → List (List Signal) → Line → Prop
  | done {line} : Hosts line [] line
  | call {α : Type} {service : Service α} {line value stream line' streams line''} : Call service →
      Runs line service value stream line' → Hosts line' streams line'' →
      Hosts line (stream :: streams) line''
  | lost {line : Line} {streams line'} : Hosts { line with isConnected := false } streams line' →
      Hosts line ([.lost] :: streams) line'

theorem Line.Hosts.afterAll {line line' : Line} {streams : List (List Signal)}
    (h : line.Hosts streams line') : ∀ stream ∈ streams, Phase.closed.afterAll stream = some .closed := by
  induction h with
  | done => exact fun _ hmem => absurd hmem List.not_mem_nil
  | call hcall hruns _ ih => exact List.forall_mem_cons.mpr ⟨hcall.isTidy.afterAll hruns, ih⟩
  | lost _ ih => exact List.forall_mem_cons.mpr ⟨rfl, ih⟩

theorem Phase.afterAll_flatten {streams : List (List Signal)}
    (h : ∀ stream ∈ streams, closed.afterAll stream = some .closed) :
    closed.afterAll streams.flatten = some .closed := by
  induction streams with
  | nil => rfl
  | cons stream streams ih =>
      rw [List.forall_mem_cons] at h
      rw [List.flatten_cons, afterAll_append, h.1]
      exact ih h.2

namespace Signal

def Opens : Signal → Prop
  | .control .begin true => True
  | _ => False

/-- A transaction is to begin, or a statement is sent on its own. -/
def NeedsClosed : Signal → Prop
  | .control .begin _ | .single _ => True
  | _ => False

def Fails : Signal → Prop
  | .control (.limit _) false | .control .commit false | .control .rollback false => True
  | _ => False

def Undoes : Signal → Prop
  | .control .rollback true | .lost => True
  | _ => False

/-- COMMIT or ROLLBACK is acknowledged, or the connection is lost. -/
def Closes : Signal → Prop
  | .control .commit true | .control .rollback true | .lost => True
  | _ => False

end Signal

/-- Whether transactions follow each other on a connection: one that has been opened is over, and one that
has failed is undone, before the next begins and before any statement on its own. -/
structure Separate (stream : List Signal) : Prop where
  closed : ∀ before opening middle next later, stream = before ++ opening :: middle ++ next :: later →
    opening.Opens → next.NeedsClosed → ∃ signal ∈ middle, signal.Closes
  undone : ∀ before failing middle next later, stream = before ++ failing :: middle ++ next :: later →
    failing.Fails → next.NeedsClosed → ∃ signal ∈ middle, signal.Undoes

/-- Whether what is seen of one call are whole transactions: each statement of a script is preceded by the
opening of its transaction, which is not over and within which no other was begun, and what was opened is
over at the end. -/
structure Enclosed (stream : List Signal) : Prop where
  scripted : ∀ before statement later, stream = before ++ .scripted statement :: later →
    ∃ earlier opening middle, before = earlier ++ opening :: middle ∧ opening.Opens ∧
      ∀ signal ∈ middle, ¬signal.Closes ∧ ¬signal.NeedsClosed
  closed : ∀ before opening later, stream = before ++ opening :: later → opening.Opens →
    ∃ signal ∈ later, signal.Closes
  undone : ∀ before failing later, stream = before ++ failing :: later → failing.Fails →
    ∃ signal ∈ later, signal.Undoes

namespace Phase

variable {phase phase' : Phase} {signal : Signal} {stream : List Signal}

theorem eq_inTransaction_of_opens (h : phase.after signal = some phase') (hopens : signal.Opens) :
    phase' = .inTransaction := by
  rcases signal with ⟨_ | _, _ | _⟩ | _ | _ | _ <;> cases phase <;> cases h <;>
    first | rfl | exact hopens.elim

theorem eq_failed_of_fails (h : phase.after signal = some phase') (hfails : signal.Fails) :
    phase' = .failed := by
  rcases signal with ⟨_ | _, _ | _⟩ | _ | _ | _ <;> cases phase <;> cases h <;>
    first | rfl | exact hfails.elim

theorem eq_closed_of_needsClosed (h : phase.after signal = some phase') (hneeds : signal.NeedsClosed) :
    phase = .closed := by
  rcases signal with ⟨_ | _, _ | _⟩ | _ | _ | _ <;> cases phase <;> cases h <;>
    first | rfl | exact hneeds.elim

theorem eq_inTransaction_of_scripted {statement : Statement}
    (h : phase.after (.scripted statement) = some phase') : phase = .inTransaction := by
  cases phase <;> cases h
  rfl

theorem ne_closed_of_after (h : phase.after signal = some phase') (hphase : phase ≠ .closed)
    (hcloses : ¬signal.Closes) : phase' ≠ .closed := by
  rcases signal with ⟨_ | _, _ | _⟩ | _ | _ | _ <;> cases phase <;> cases h <;>
    first | exact absurd rfl hphase | exact absurd trivial hcloses | exact Phase.noConfusion

/-- Only what undoes a transaction leads on after a failure. -/
theorem eq_failed_of_after (h : failed.after signal = some phase') (hundoes : ¬signal.Undoes) :
    phase' = .failed := by
  rcases signal with ⟨_ | _, _ | _⟩ | _ | _ | _ <;> cases h <;>
    first | rfl | exact absurd trivial hundoes

/-- A transaction is entered by opening it, and continued by nothing that closes it or needs it closed. -/
theorem opens_of_after (h : phase.after signal = some .inTransaction) :
    signal.Opens ∨ phase = .inTransaction ∧ ¬signal.Closes ∧ ¬signal.NeedsClosed := by
  rcases signal with ⟨_ | _, _ | _⟩ | _ | _ | _ <;> cases phase <;> cases h <;>
    first | exact .inl trivial | exact .inr ⟨rfl, id, id⟩

theorem exists_closes (h : phase.afterAll stream = some .closed) (hphase : phase ≠ .closed) :
    ∃ signal ∈ stream, signal.Closes := by
  by_contra hnone
  induction stream generalizing phase with
  | nil => exact hphase (Option.some.inj h)
  | cons signal stream ih =>
      obtain ⟨phase', hsignal, hstream⟩ := Option.bind_eq_some_iff.mp h
      refine ih hstream (ne_closed_of_after hsignal hphase fun hcloses => ?_) fun ⟨other, hmem, hcloses⟩ => ?_
      · exact hnone ⟨signal, List.mem_cons_self, hcloses⟩
      · exact hnone ⟨other, List.mem_cons_of_mem _ hmem, hcloses⟩

theorem exists_undoes (h : failed.afterAll stream = some .closed) : ∃ signal ∈ stream, signal.Undoes := by
  by_contra hnone
  induction stream with
  | nil => exact nomatch Option.some.inj h
  | cons signal stream ih =>
      obtain ⟨phase', hsignal, hstream⟩ := Option.bind_eq_some_iff.mp h
      have hfailed := eq_failed_of_after hsignal fun hundoes =>
        hnone ⟨signal, List.mem_cons_self, hundoes⟩
      subst hfailed
      exact ih hstream fun ⟨other, hmem, hundoes⟩ => hnone ⟨other, List.mem_cons_of_mem _ hmem, hundoes⟩

/-- Within a transaction its opening is behind, and it has not been closed. -/
theorem exists_opens {before : List Signal} (h : closed.afterAll before = some .inTransaction) :
    ∃ earlier opening middle, before = earlier ++ opening :: middle ∧ opening.Opens ∧
      ∀ signal ∈ middle, ¬signal.Closes ∧ ¬signal.NeedsClosed := by
  induction before using List.reverseRecOn with
  | nil => exact nomatch Option.some.inj h
  | append_singleton before signal ih =>
      rw [afterAll_append] at h
      obtain ⟨phase, hbefore, hlast⟩ := Option.bind_eq_some_iff.mp h
      obtain ⟨phase', hsignal, hend⟩ := Option.bind_eq_some_iff.mp hlast
      cases Option.some.inj hend
      rcases opens_of_after hsignal with hopens | ⟨rfl, hquiet⟩
      · exact ⟨before, signal, [], rfl, hopens, fun _ hmem => absurd hmem List.not_mem_nil⟩
      · obtain ⟨earlier, opening, middle, rfl, hopens, hmiddle⟩ := ih hbefore
        refine ⟨earlier, opening, middle ++ [signal], by simp, hopens, fun other hmem => ?_⟩
        rcases List.mem_append.mp hmem with hmem | hmem
        · exact hmiddle other hmem
        · rw [List.mem_singleton.mp hmem]
          exact hquiet

theorem afterAll_split {final : Phase} {before later : List Signal}
    (h : phase.afterAll (before ++ signal :: later) = some final) :
    ∃ phase₁ phase₂, phase.afterAll before = some phase₁ ∧ phase₁.after signal = some phase₂ ∧
      phase₂.afterAll later = some final := by
  rw [afterAll_append] at h
  obtain ⟨phase₁, hbefore, hrest⟩ := Option.bind_eq_some_iff.mp h
  obtain ⟨phase₂, hsignal, hlater⟩ := Option.bind_eq_some_iff.mp hrest
  exact ⟨phase₁, phase₂, hbefore, hsignal, hlater⟩

end Phase

theorem Separate.of_afterAll {stream : List Signal} (h : Phase.closed.afterAll stream = some .closed) :
    Separate stream := by
  -- What is between a signal and a later one that needs the connection closed leads to the closed phase.
  have between : ∀ before signal middle next later, stream = before ++ signal :: middle ++ next :: later →
      next.NeedsClosed → ∃ phase phase' : Phase, phase.after signal = some phase' ∧
        phase'.afterAll middle = some .closed := by
    rintro before signal middle next later rfl hneeds
    rw [List.append_assoc, List.cons_append] at h
    obtain ⟨phase, phase', -, hsignal, hrest⟩ := Phase.afterAll_split h
    obtain ⟨phase'', _, hmiddle, hnext, -⟩ := Phase.afterAll_split hrest
    cases Phase.eq_closed_of_needsClosed hnext hneeds
    exact ⟨phase, phase', hsignal, hmiddle⟩
  constructor
  · intro before opening middle next later hstream hopens hneeds
    obtain ⟨phase, phase', hsignal, hmiddle⟩ := between _ _ _ _ _ hstream hneeds
    cases Phase.eq_inTransaction_of_opens hsignal hopens
    exact Phase.exists_closes hmiddle nofun
  · intro before failing middle next later hstream hfails hneeds
    obtain ⟨phase, phase', hsignal, hmiddle⟩ := between _ _ _ _ _ hstream hneeds
    cases Phase.eq_failed_of_fails hsignal hfails
    exact Phase.exists_undoes hmiddle

theorem Enclosed.of_afterAll {stream : List Signal} (h : Phase.closed.afterAll stream = some .closed) :
    Enclosed stream := by
  refine ⟨?_, ?_, ?_⟩
  · rintro before statement later rfl
    obtain ⟨phase, phase', hbefore, hsignal, -⟩ := Phase.afterAll_split h
    cases Phase.eq_inTransaction_of_scripted hsignal
    exact Phase.exists_opens hbefore
  · rintro before opening later rfl hopens
    obtain ⟨phase, phase', -, hsignal, hlater⟩ := Phase.afterAll_split h
    cases Phase.eq_inTransaction_of_opens hsignal hopens
    exact Phase.exists_closes hlater nofun
  · rintro before failing later rfl hfails
    obtain ⟨phase, phase', -, hsignal, hlater⟩ := Phase.afterAll_split h
    cases Phase.eq_failed_of_fails hsignal hfails
    exact Phase.exists_undoes hlater

/-- However many calls follow each other on a line, and whatever is replied to them, transactions follow
each other on it, and those of one call are within it. -/
theorem Line.transactions_separate {line line' : Line} {streams : List (List Signal)}
    (h : line.Hosts streams line') :
    Separate streams.flatten ∧ ∀ stream ∈ streams, Enclosed stream :=
  ⟨.of_afterAll (Phase.afterAll_flatten h.afterAll), fun stream hmem => .of_afterAll (h.afterAll stream hmem)⟩

/-- A database that answers a probe, refuses COMMIT, and answers another probe. -/
def commitRefused : Rehearsal where
  queue := ⟨2, [], true, Nat.two_pos, Nat.zero_le 2⟩
  linkBase := ""
  cues :=
    { replies := [{ outcome := .ok ⟨[], 0⟩ }, { outcome := .ok ⟨[], 0⟩ }]
      commit? := some { outcome := .error (.refused { message := "no", code := none, constraint := none }) } }

/-- Between a COMMIT that is refused and a statement on its own there is a ROLLBACK. -/
theorem Line.transactions_separate_commitRefused :
    ∃ streams line', commitRefused.line.Hosts streams line' ∧
      streams.flatten.filterMap Signal.command? =
        [.begin, .limit 1000, .statement .probe, .commit, .rollback, .statement .probe] ∧
      Separate streams.flatten := by
  obtain ⟨first, hfirst, hshows⟩ := commitRefused.run_runs (atomically 1000 (Script.query .probe))
  obtain ⟨second, hsecond, hshows'⟩ := (commitRefused.run (atomically 1000 (Script.query .probe))).2.run_runs
    (Service.pooled .probe)
  have hhosts : commitRefused.line.Hosts [first, second] _ :=
    .call (.transaction 1000 _) hfirst (.call (.pooled _) hsecond .done)
  refine ⟨_, _, hhosts, ?_, (transactions_separate hhosts).1⟩
  have hcommands : commitRefused.trace.commands ++ [first, second].flatten.filterMap Signal.command? =
      ((commitRefused.run (atomically 1000 (Script.query .probe))).2.run
        (Service.pooled .probe)).2.trace.commands := by
    rw [hshows', hshows, List.flatten_cons, List.flatten_cons, List.flatten_nil, List.append_nil,
      List.filterMap_append, List.append_assoc]
  exact hcommands.trans (by decide +kernel)

end Passbook
