import Passbook.Proofs.Queue.Surroundings
import Passbook.Rehearsal

/-!
# Registrations in step with their tasks

One registration leaves a task in the queue if and only if it may have taken effect: its result is the
stored user, or COMMIT has failed. With any other result the queue is what it was. This is a statement
about one registration and one queue; a desk is the same queue over time, with registrations one after
the other, and with a receiver that takes tasks in between, stops the queue, or leaves it. What a desk
keeps is the account of the queue: the tasks taken, then those pending, then those that a receiver left
behind are the accepted ones, in the order in which they were accepted.
-/
namespace Passbook

open Service (withQueue announcements acceptedTasks commits)

namespace NewUser

/-- Whether a registration has changed a queue as its result says. -/
structure InStep (user : NewUser) (queue queue' : TaskQueue) (past : List Service.Event)
    (result : Except Failure User) : Prop where
  /-- the task names the user whom the INSERT has returned -/
  task : (∃ stored, user.StoredAs past stored ∧ queue.Gains [⟨stored.username⟩] queue') ↔
    MayHaveCommitted result
  untouched : ¬MayHaveCommitted result → queue' = queue
  unannounced : (¬∃ stored, user.StoredAs past stored) → announcements past = []
  /-- a user who reaches a queue that is full or closed -/
  refused : announcements past ≠ [] →
    queue.accepting = false ∨ queue.capacity ≤ queue.pending.length →
      commits past = [] ∧ ∃ fault : QueueFault, ReportsRefusal fault.message result

variable {user : NewUser} {queue queue' : TaskQueue} {past : List Service.Event}
  {result : Except Failure User}

/-- A refused user leaves no task, and whoever leaves none was refused, so the two directions of
`InStep.task` are about the three ways in which a registration can have come to its result. -/
theorem Registers.inStep (h : user.Registers .enqueue past result)
    (hgains : queue.Gains (acceptedTasks past) queue')
    (hsaid : ∀ {stored said}, announcements past = [⟨.enqueue, stored, said⟩] →
      said = (queue.announce stored).1) :
    user.InStep queue queue' past result := by
  have untold : acceptedTasks past = [] → queue' = queue := fun hnone => by
    rw [hnone] at hgains
    exact hgains.eq_of_nil
  have none_of_eq : queue' = queue →
      ¬∃ stored, user.StoredAs past stored ∧ queue.Gains [⟨stored.username⟩] queue' := by
    rintro rfl ⟨stored, -, hgained⟩
    exact List.cons_ne_nil _ _ (List.append_right_eq_self.mp hgained.pending.symm)
  cases h with
  | unannounced hannouncements hcommits hresult =>
      have hsame := untold (by rw [acceptedTasks, hannouncements, List.filterMap_nil])
      exact {
        task := ⟨fun hgained => absurd hgained (none_of_eq hsame), fun hmay => absurd hmay hresult⟩
        untouched := fun _ => hsame
        unannounced := fun _ => hannouncements
        refused := fun hannounced => absurd hannouncements hannounced }
  | @refused stored reason hannouncements hstored hcommits hreports =>
      have hsame := untold (by rw [acceptedTasks, hannouncements]; rfl)
      have hresult := hreports.not_mayHaveCommitted
      refine {
        task := ⟨fun hgained => absurd hgained (none_of_eq hsame), fun hmay => absurd hmay hresult⟩
        untouched := fun _ => hsame
        unannounced := fun hnot => absurd ⟨stored, hstored⟩ hnot
        refused := fun _ _ => ⟨hcommits, ?_⟩ }
      obtain ⟨fault, rfl⟩ := TaskQueue.announce_eq_error (hsaid hannouncements).symm
      exact ⟨fault, hreports⟩
  | @accepted stored hannouncements hstored hresult =>
      have htask : queue.Gains [⟨stored.username⟩] queue' := by
        rw [acceptedTasks, hannouncements] at hgains
        exact hgains
      have hmay : MayHaveCommitted result := by
        rcases hresult with rfl | ⟨fault, rfl⟩
        · trivial
        · exact ⟨fault, rfl⟩
      exact {
        task := ⟨fun _ => hmay, fun _ => ⟨stored, hstored, htask⟩⟩
        untouched := fun hnot => absurd hmay hnot
        unannounced := fun hnot => absurd ⟨stored, hstored⟩ hnot
        refused := fun _ hfull =>
          absurd hfull (TaskQueue.has_room_of_announce_eq_ok (hsaid hannouncements).symm) }

variable {σ : Type} (outside : (action : Service.Action) → σ → action.Answer × σ)

theorem register_inStep (limit : Nat) (user : NewUser) (state : σ) (queue : TaskQueue) :
    user.InStep queue ((user.register limit .enqueue).run (withQueue outside) (state, queue)).2.2
      ((user.register limit .enqueue).history (withQueue outside) (state, queue))
      ((user.register limit .enqueue).run (withQueue outside) (state, queue)).1 :=
  ((register_registers limit user .enqueue).run (withQueue outside) (state, queue)).inStep
    (Service.run_gains outside _ (state, queue))
    fun h => Service.history_announcement outside _ (state, queue) h

end NewUser

/-- What can happen at a queue. -/
inductive Occasion where
  | register (limit : Nat) (user : NewUser)
  /-- the receiver asks for a task -/
  | take
  /-- the receiver wants no further tasks -/
  | close
  /-- the receiver goes, and what is pending is lost -/
  | leave
deriving DecidableEq, Repr

/-- A queue over time, with what is outside of it. -/
structure Desk (σ : Type) where
  outside : σ
  queue : TaskQueue
  /-- the tasks accepted so far, in this order -/
  accepted : List Task := []
  /-- the tasks that the receiver was handed, in this order -/
  taken : List Task := []
  /-- the tasks that were pending when the receiver left -/
  lost : List Task := []

namespace Desk

variable {σ : Type} (outside : (action : Service.Action) → σ → action.Answer × σ)

def attend (desk : Desk σ) : Occasion → Desk σ
  | .register limit user =>
      let registration := user.register limit .enqueue
      let start := (desk.outside, desk.queue)
      { desk with
        outside := (registration.run (withQueue outside) start).2.1
        queue := (registration.run (withQueue outside) start).2.2
        accepted := desk.accepted ++ acceptedTasks (registration.history (withQueue outside) start) }
  | .take =>
      match desk.queue.take with
      | .ok (task, queue) => { desk with queue := queue, taken := desk.taken ++ [task] }
      | .error _ => desk
  | .close => { desk with queue := desk.queue.close }
  | .leave => { desk with queue := desk.queue.drop, lost := desk.lost ++ desk.queue.pending }

structure Balanced (capacity : Nat) (desk : Desk σ) : Prop where
  tasks : desk.taken ++ desk.queue.pending ++ desk.lost = desk.accepted
  /-- tasks are lost only when the queue is done with -/
  done_of_lost : desk.lost ≠ [] → desk.queue.accepting = false ∧ desk.queue.pending = []
  capacity : desk.queue.capacity = capacity

variable {outside} {capacity : Nat} {desk : Desk σ}

theorem Balanced.attend (h : desk.Balanced capacity) (occasion : Occasion) :
    (desk.attend outside occasion).Balanced capacity := by
  cases occasion with
  | register limit user =>
      have hgains := Service.run_gains outside (user.register limit .enqueue) (desk.outside, desk.queue)
      by_cases hlost : desk.lost = []
      · refine ⟨?_, fun hnot => absurd hlost hnot, hgains.capacity.trans h.capacity⟩
        have htasks := h.tasks
        simp only [Desk.attend, hlost, List.append_nil] at htasks ⊢
        rw [hgains.pending, ← List.append_assoc, htasks]
      · obtain ⟨hclosed, hpending⟩ := h.done_of_lost hlost
        have hnone := hgains.none_of_closed hclosed
        rw [hnone] at hgains
        refine ⟨?_, fun _ => ?_, hgains.capacity.trans h.capacity⟩
        · simp only [Desk.attend, hnone, hgains.eq_of_nil, List.append_nil]
          exact h.tasks
        · simp only [Desk.attend, hgains.eq_of_nil]
          exact ⟨hclosed, hpending⟩
  | take =>
      unfold Desk.attend
      dsimp only
      cases htake : desk.queue.take with
      | error idle => exact h
      | ok taken =>
          obtain ⟨task, queue⟩ := taken
          obtain ⟨hpending, hcapacity, haccepting⟩ := TaskQueue.take_eq_ok htake
          refine ⟨?_, fun hlost => ?_, hcapacity.trans h.capacity⟩
          · rw [← h.tasks, hpending]
            simp only [List.append_assoc, List.cons_append, List.nil_append]
          · have hnone := (h.done_of_lost hlost).2
            rw [hpending] at hnone
            cases hnone
  | close => exact ⟨h.tasks, fun hlost => ⟨rfl, (h.done_of_lost hlost).2⟩, h.capacity⟩
  | leave =>
      refine ⟨?_, fun _ => ⟨rfl, rfl⟩, h.capacity⟩
      have htasks := h.tasks
      by_cases hlost : desk.lost = []
      · simpa only [Desk.attend, TaskQueue.drop, hlost, List.append_nil, List.nil_append] using htasks
      · have hpending := (h.done_of_lost hlost).2
        simpa only [Desk.attend, TaskQueue.drop, hpending, List.append_nil] using htasks

theorem Balanced.foldl (h : desk.Balanced capacity) (occasions : List Occasion) :
    (occasions.foldl (Desk.attend outside) desk).Balanced capacity := by
  induction occasions generalizing desk with
  | nil => exact h
  | cons occasion rest ih => exact ih (h.attend occasion)

/-- Nothing is lost to a receiver who stays. -/
theorem attend_lost {occasion : Occasion} (h : occasion ≠ .leave) (desk : Desk σ) :
    (desk.attend outside occasion).lost = desk.lost := by
  cases occasion with
  | register limit user => rfl
  | take =>
      unfold Desk.attend
      dsimp only
      cases desk.queue.take <;> rfl
  | close => rfl
  | leave => exact absurd rfl h

theorem foldl_lost {occasions : List Occasion} (h : .leave ∉ occasions) (desk : Desk σ) :
    (occasions.foldl (Desk.attend outside) desk).lost = desk.lost := by
  induction occasions generalizing desk with
  | nil => rfl
  | cons occasion rest ih =>
      rw [List.mem_cons, not_or] at h
      exact (ih h.2 _).trans (attend_lost (Ne.symm h.1) desk)

/-- Whatever happens at a queue that starts empty: the tasks taken and then those pending are the accepted
ones, in the order of their acceptance, as long as the receiver stays; what is pending is never more than
the queue has room for; and each registration is in step with the queue as it finds it. -/
theorem registrations_in_step {capacity : Nat} {queue : TaskQueue}
    (hqueue : TaskQueue.create capacity = .ok queue) (state : σ) (occasions : List Occasion)
    (desk : Desk σ) (hdesk : desk = occasions.foldl (Desk.attend outside) { outside := state, queue }) :
    desk.taken ++ desk.queue.pending ++ desk.lost = desk.accepted ∧
      (.leave ∉ occasions → desk.taken ++ desk.queue.pending = desk.accepted) ∧
      desk.queue.pending.length ≤ capacity ∧
      ∀ (limit : Nat) (user : NewUser),
        user.InStep desk.queue (desk.attend outside (.register limit user)).queue
          ((user.register limit .enqueue).history (withQueue outside) (desk.outside, desk.queue))
          ((user.register limit .enqueue).run (withQueue outside) (desk.outside, desk.queue)).1 := by
  have hstart : ({ outside := state, queue } : Desk σ).Balanced capacity := by
    unfold TaskQueue.create at hqueue
    split at hqueue
    · cases hqueue
      exact ⟨rfl, fun h => absurd rfl h, rfl⟩
    · cases hqueue
  have hbalanced : desk.Balanced capacity := hdesk ▸ hstart.foldl occasions
  refine ⟨hbalanced.tasks, fun hstays => ?_, ?_, fun limit user =>
    user.register_inStep outside limit desk.outside desk.queue⟩
  · have hlost : desk.lost = [] := by
      rw [hdesk]
      exact foldl_lost hstays _
    have htasks := hbalanced.tasks
    rwa [hlost, List.append_nil] at htasks
  · rw [← hbalanced.capacity]
    exact desk.queue.pending_le

/-- What a row says about a new user. -/
def stored (user : NewUser) : Row := [
  ("username", .text user.username),
  ("hashed_password", .text user.passwordDigest),
  ("full_name", .text user.fullName),
  ("email", .text user.email),
  ("password_changed_at", .int 0),
  ("is_email_verified", .bool false),
  ("created_at", .int 0)]

def ann : NewUser := ⟨"ann", "digest", "Ann", "ann@example.com"⟩

def bob : NewUser := ⟨"bob", "digest", "Bob", "bob@example.com"⟩

def oneTask : TaskQueue := { capacity := 1, pending_le := TaskQueue.oneTask_room }

/-- A queue with room for one task, and a database that stores Ann and Bob. -/
def roomForOne : Desk Rehearsal where
  outside := {
    cues := { replies := [ann, bob].map fun user => { outcome := .ok ⟨[stored user], 1⟩ } }
    queue := oneTask
    linkBase := "" }
  queue := oneTask

/-- With room for one task, Ann is registered, and Bob, whose row has been inserted, is not. -/
theorem registrations_in_step_full :
    TaskQueue.create 1 = .ok oneTask ∧
      ∃ desk, desk = [.register 1000 ann].foldl (attend Rehearsal.surroundings) roomForOne ∧
        desk.queue.pending = [⟨"ann"⟩] ∧
        desk.taken ++ desk.queue.pending = desk.accepted ∧
        commits ((bob.register 1000 .enqueue).history (withQueue Rehearsal.surroundings)
          (desk.outside, desk.queue)) = [] ∧
        ∃ fault : QueueFault, ReportsRefusal fault.message
          ((bob.register 1000 .enqueue).run (withQueue Rehearsal.surroundings)
            (desk.outside, desk.queue)).1 := by
  have hqueue : TaskQueue.create 1 = .ok oneTask := rfl
  obtain ⟨-, htasks, -, hstep⟩ := registrations_in_step hqueue roomForOne.outside
    [.register 1000 ann] ([.register 1000 ann].foldl (attend Rehearsal.surroundings) roomForOne) rfl
  obtain ⟨hcommits, hreports⟩ := (hstep 1000 bob).refused (by decide +kernel) (.inr (by decide +kernel))
  exact ⟨hqueue, _, rfl, by decide +kernel, htasks (by decide), hcommits, hreports⟩

end Desk

end Passbook
