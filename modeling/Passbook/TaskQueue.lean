/-!
# The task queue

A registration leaves a task for the new user in a queue of bounded size. Offering a task never waits:
a queue that is full or closed refuses it. Tasks are taken in the order in which they were accepted. A
closed queue still hands out what it holds, unless it has been dropped.
-/
namespace Passbook

/-- To mail a verification link to a user. -/
structure Task where
  username : String
deriving DecidableEq, Repr

structure TaskQueue where
  capacity : Nat
  pending : List Task := []
  accepting : Bool := true
  capacity_pos : 0 < capacity := by omega
  pending_le : pending.length ≤ capacity := by omega
deriving Repr

inductive QueueFault where
  | full
  | closed
deriving DecidableEq, Repr

def QueueFault.message : QueueFault → String
  | .full => "task queue is full"
  | .closed => "task queue is closed"

inductive Idle where
  /-- there may be tasks later -/
  | empty
  /-- there will be no tasks -/
  | ended
deriving DecidableEq, Repr

def Idle.message : Idle → String
  | .empty => "receiving on an empty channel"
  | .ended => "receiving on a closed channel"

namespace TaskQueue

theorem oneTask_room : ([] : List Task).length ≤ 1 := Nat.zero_le 1

/-- What is said about a queue without room for any task. -/
def noRoom : String := "mpsc bounded channel requires buffer > 0"

/-- An empty queue, unless it would never have room for a task. -/
def create (capacity : Nat) : Except String TaskQueue :=
  if h : 0 < capacity then
    .ok { capacity := capacity, capacity_pos := h, pending_le := Nat.zero_le _ }
  else .error noRoom

/-- Puts a task behind the others. That a queue is closed is found out first. -/
def offer (task : Task) (queue : TaskQueue) : Except QueueFault TaskQueue :=
  if !queue.accepting then .error .closed
  else if h : queue.pending.length < queue.capacity then
    .ok { queue with
      pending := queue.pending ++ [task]
      pending_le := by
        rw [List.length_append]
        exact h }
  else .error .full

theorem offer_eq_ok {task : Task} {queue queue' : TaskQueue} (h : queue.offer task = .ok queue') :
    queue.accepting = true ∧ queue.pending.length < queue.capacity := by
  unfold offer at h
  split at h
  · cases h
  · next hopen =>
    split at h
    · next hroom => exact ⟨by simpa using hopen, hroom⟩
    · cases h

def take (queue : TaskQueue) : Except Idle (Task × TaskQueue) :=
  match h : queue.pending with
  | [] => .error (if queue.accepting then .empty else .ended)
  | task :: rest =>
      .ok (task, { queue with
        pending := rest
        pending_le := by
          have := queue.pending_le
          rw [h, List.length_cons] at this
          omega })

def close (queue : TaskQueue) : TaskQueue := { queue with accepting := false }

/-- Stops accepting tasks and forgets those that are pending. -/
def drop (queue : TaskQueue) : TaskQueue :=
  { queue with accepting := false, pending := [], pending_le := Nat.zero_le _ }

/-- Leaves no task pending. -/
def clear (queue : TaskQueue) : TaskQueue :=
  { queue with pending := [], pending_le := Nat.zero_le _ }

end TaskQueue
end Passbook
