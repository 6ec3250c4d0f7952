import Passbook.Proofs.Program.Contract
import Passbook.Proofs.Transaction.Register

/-!
# Surroundings with a task queue

Whatever runs beside a task queue, the queue changes only by the users that are announced to it: each of
them is offered as a task, and the answer tells whether it was accepted. So the queue after a run is the
one before with the accepted tasks behind the others. Everything else that a service asks for is answered
from outside, in any way.
-/
namespace Passbook

namespace TaskQueue

/-- Whether one queue is another with further tasks behind the others. A queue that has stopped accepting
tasks gains none. -/
structure Gains (queue : TaskQueue) (tasks : List Task) (queue' : TaskQueue) : Prop where
  pending : queue'.pending = queue.pending ++ tasks
  capacity : queue'.capacity = queue.capacity
  accepting : queue'.accepting = queue.accepting
  none_of_closed : queue.accepting = false → tasks = []

namespace Gains

variable {queue queue' queue'' : TaskQueue} {tasks tasks' : List Task}

theorem refl (queue : TaskQueue) : queue.Gains [] queue := 
  ⟨(List.append_nil _).symm, rfl, rfl, fun _ => rfl⟩

theorem trans (h : queue.Gains tasks queue') (h' : queue'.Gains tasks' queue'') :
    queue.Gains (tasks ++ tasks') queue'' where
  pending := by rw [h'.pending, h.pending, List.append_assoc]
  capacity := h'.capacity.trans h.capacity
  accepting := h'.accepting.trans h.accepting
  none_of_closed hclosed := by
    rw [h.none_of_closed hclosed, h'.none_of_closed (h.accepting.trans hclosed), List.append_nil]

theorem eq_of_nil (h : queue.Gains [] queue') : queue' = queue := by
  obtain ⟨hpending, hcapacity, haccepting, -⟩ := h
  rw [List.append_nil] at hpending
  cases queue
  cases queue'
  simp_all

end Gains

theorem offer_gains {task : Task} {queue queue' : TaskQueue} (h : queue.offer task = .ok queue') :
    queue.Gains [task] queue' := by
  have hopen := (offer_eq_ok h).1
  unfold offer at h
  split at h
  · cases h
  · split at h
    · cases h
      exact ⟨rfl, rfl, rfl, fun hclosed => Bool.noConfusion (hopen.symm.trans hclosed)⟩
    · cases h

theorem take_eq_ok {task : Task} {queue queue' : TaskQueue} (h : queue.take = .ok (task, queue')) :
    queue.pending = task :: queue'.pending ∧ queue'.capacity = queue.capacity ∧
      queue'.accepting = queue.accepting := by
  unfold take at h
  split at h
  · cases h
  · next hpending =>
    cases h
    exact ⟨hpending, rfl, rfl⟩

/-- Offers a user as a task, and tells whether it was accepted. -/
def announce (user : User) (queue : TaskQueue) : Except String Unit × TaskQueue :=
  match queue.offer ⟨user.username⟩ with
  | .ok queue => (.ok (), queue)
  | .error fault => (.error fault.message, queue)

theorem announce_eq_error {user : User} {queue : TaskQueue} {reason : String}
    (h : (queue.announce user).1 = .error reason) : ∃ fault : QueueFault, reason = fault.message := by
  unfold announce at h
  split at h
  · cases h
  · next fault _ =>
    cases h
    exact ⟨fault, rfl⟩

theorem has_room_of_announce_eq_ok {user : User} {queue : TaskQueue}
    (h : (queue.announce user).1 = .ok ()) :
    ¬(queue.accepting = false ∨ queue.capacity ≤ queue.pending.length) := by
  unfold announce at h
  split at h
  · next hoffer =>
    obtain ⟨hopen, hroom⟩ := offer_eq_ok hoffer
    rintro (hclosed | hfull)
    · exact nomatch hopen.symm.trans hclosed
    · omega
  · cases h

end TaskQueue

namespace Service

variable {σ α : Type} (outside : (action : Action) → σ → action.Answer × σ)

/-- A queue with its surroundings: what is announced to the queue is offered to it, and everything else is
answered from outside. -/
def withQueue (action : Action) (state : σ × TaskQueue) : action.Answer × σ × TaskQueue :=
  match action with
  | .announce .enqueue user =>
      let (said, queue) := state.2.announce user
      (said, state.1, queue)
  | action =>
      let (answer, after) := outside action state.1
      (answer, after, state.2)

theorem withQueue_gains (action : Action) (state : σ × TaskQueue) :
    state.2.Gains (acceptedTasks [⟨action, (withQueue outside action state).1⟩])
      (withQueue outside action state).2.2 := by
  cases action with
  | announce hook user =>
      cases hook with
      | enqueue =>
          simp only [withQueue, TaskQueue.announce]
          cases hoffer : state.2.offer ⟨user.username⟩ with
          | ok queue => exact TaskQueue.offer_gains hoffer
          | error fault => exact .refl state.2
      | allow => exact .refl state.2
      | refuse reason => exact .refl state.2
  | _ => exact .refl state.2

/-- A run adds to the queue what is accepted during it. -/
theorem run_gains (p : Service α) (state : σ × TaskQueue) :
    state.2.Gains (acceptedTasks (p.history (withQueue outside) state))
      (p.run (withQueue outside) state).2.2 := by
  induction p generalizing state with
  | done value => exact .refl state.2
  | ask action next ih =>
      have hfirst := withQueue_gains outside action state
      have hrest := ih (withQueue outside action state).1 (withQueue outside action state).2
      have hgains := hfirst.trans hrest
      simp only [acceptedTasks, announcements, ← List.filterMap_append] at hgains
      exact hgains

/-- The first user who is announced to the queue hears what the queue at the start has to say. -/
theorem history_announcement (p : Service α) (state : σ × TaskQueue) {user : User}
    {said : Except String Unit} {later : List Announcement}
    (h : announcements (p.history (withQueue outside) state) = ⟨.enqueue, user, said⟩ :: later) :
    said = (state.2.announce user).1 := by
  induction p generalizing state with
  | done value => cases h
  | ask action next ih =>
      have hrest := ih (withQueue outside action state).1 (withQueue outside action state).2
      cases action with
      | announce hook user' =>
          cases hook with
          | enqueue =>
              cases h
              rfl
          | allow => cases h
          | refuse reason => cases h
      | _ => exact hrest h

end Service

end Passbook
