import Passbook.Proofs.Queue.Surroundings
import Passbook.Proofs.Worker.Handling

/-!
# Tasks worked off side by side

The worker takes the accepted tasks from the queue one after the other and starts to work each of them
off as soon as it has taken it, so that many are under way at the same time and each goes on when
something is answered to it. In between further tasks may be offered, and the queue may be closed. The
answers are anybody's: a connection that all tasks share may be there for one of them and not for another,
and mail may be accepted for one and not for another.

What is said of a single task holds of each of them, since none hears what is answered to another. The
worker cannot go on forever: it is done after at most seven steps for each accepted task, and then every
accepted task has been worked off once.
-/
namespace Passbook

open Service (Action Event)

namespace Program

variable {R : Type} {A : R → Type} {α : Type}

/-- Whether this is left of a program that has asked for some things and has heard these answers. -/
inductive Leaves (p : Program R A α) : List (Event R A) → Program R A α → Prop
  | nothing : Leaves p [] p
  | heard {past request next} (answer : A request) :
      Leaves p past (.ask request next) → Leaves p (past ++ [⟨request, answer⟩]) (next answer)

/-- What is left of a program keeps the contract of the whole. -/
theorem Leaves.keeps {before : List (Event R A) → R → Prop} {after : List (Event R A) → α → Prop}
    {p rest : Program R A α} {past : List (Event R A)} (h : p.Leaves past rest)
    (hkeeps : p.Keeps before after []) : rest.Keeps before after past := by
  induction h with
  | nothing => exact hkeeps
  | heard answer _ ih => exact ih.2 answer

theorem history_bind {β σ : Type} (surroundings : (r : R) → σ → A r × σ) (p : Program R A α)
    (f : α → Program R A β) (state : σ) :
    (p.bind f).history surroundings state = p.history surroundings state ++
      (f (p.run surroundings state).1).history surroundings (p.run surroundings state).2 := by
  induction p generalizing state with
  | done value => rfl
  | ask r next ih => simp only [ask_bind, history, Program.run, ih, List.cons_append]

end Program

/-- A task that is worked off: what has been asked for it, with the answers, and what remains to be done. -/
structure Job where
  task : Task
  past : List Event := []
  rest : Service (Except TaskFault Verification)

/-- The queue, the tasks that were taken from it, in this order, and those that it has accepted. -/
structure Workshop where
  queue : TaskQueue
  jobs : List Job := []
  accepted : List Task := []

namespace Workshop

/-- What the worker does: it takes a task, or goes on with one that something is answered to. -/
inductive Works (base : String) : Workshop → Workshop → Prop
  | take {w : Workshop} {task queue} : w.queue.take = .ok (task, queue) →
      Works base w { w with queue, jobs := w.jobs ++ [{ task, rest := task.process base }] }
  | hear {w : Workshop} {earlier later job action next} (answer : action.Answer) :
      w.jobs = earlier ++ job :: later → job.rest = .ask action next → Event.Drawn ⟨action, answer⟩ →
      Works base w { w with jobs := earlier ++
        { task := job.task, past := job.past ++ [⟨action, answer⟩], rest := next answer } :: later }

/-- What happens at the queue apart from that. -/
inductive Offers : Workshop → Workshop → Prop
  | accept {w : Workshop} {task queue} : w.queue.offer task = .ok queue →
      Offers w { w with queue, accepted := w.accepted ++ [task] }
  | close {w : Workshop} : Offers w { w with queue := w.queue.close }

/-- Everything that a worker with an empty queue can come to. -/
def Reaches (base : String) (queue : TaskQueue) (w : Workshop) : Prop :=
  Relation.ReflTransGen (fun w w' => Works base w w' ∨ Offers w w') { queue } w

/-- Whether the worker has nothing to do. -/
def IsIdle (w : Workshop) : Prop := w.queue.pending = [] ∧ ∀ job ∈ w.jobs, ∃ result, job.rest = .done result

def steps (w : Workshop) : Nat := w.jobs.length + (w.jobs.map fun job => job.past.length).sum

variable {base : String} {w w' : Workshop}

/-- What holds of the jobs and of the queue at every moment. -/
structure Sound (base : String) (w : Workshop) : Prop where
  /-- the tasks that were taken and then those pending are the accepted ones -/
  tasks : w.jobs.map Job.task ++ w.queue.pending = w.accepted
  /-- each job is what its own answers have left of its task -/
  leaves : ∀ job ∈ w.jobs, (job.task.process base).Leaves job.past job.rest
  fair : ∀ job ∈ w.jobs, Task.Fair job.past

theorem Sound.works (h : w.Sound base) (hstep : Works base w w') : w'.Sound base := by
  cases hstep with
  | @take task queue htake =>
      obtain ⟨hpending, -, -⟩ := TaskQueue.take_eq_ok htake
      constructor
      case tasks =>
        rw [← h.tasks, hpending, List.map_append, List.append_assoc]
        rfl
      case leaves =>
        refine List.forall_mem_append.mpr ⟨h.leaves, fun job hjob => ?_⟩
        rw [List.mem_singleton.mp hjob]
        exact .nothing
      case fair =>
        refine List.forall_mem_append.mpr ⟨h.fair, fun job hjob => ?_⟩
        rw [List.mem_singleton.mp hjob]
        exact fun _ hevent => absurd hevent List.not_mem_nil
  | @hear earlier later job action next answer hjobs hrest hdrawn =>
      obtain ⟨htasks, hleaves, hfair⟩ := h
      rw [hjobs] at htasks hleaves hfair
      rw [List.forall_mem_append, List.forall_mem_cons] at hleaves hfair
      constructor
      case tasks => simpa only [List.map_append, List.map_cons] using htasks
      case leaves =>
        refine List.forall_mem_append.mpr ⟨hleaves.1, List.forall_mem_cons.mpr ⟨?_, hleaves.2.2⟩⟩
        exact .heard answer (hrest ▸ hleaves.2.1)
      case fair =>
        refine List.forall_mem_append.mpr ⟨hfair.1, List.forall_mem_cons.mpr ⟨?_, hfair.2.2⟩⟩
        exact hfair.2.1.append_singleton hdrawn

theorem Sound.offers (h : w.Sound base) (hstep : Offers w w') : w'.Sound base := by
  cases hstep with
  | accept hoffer =>
      refine ⟨?_, h.leaves, h.fair⟩
      rw [(TaskQueue.offer_gains hoffer).pending, ← List.append_assoc, h.tasks]
  | close => exact ⟨h.tasks, h.leaves, h.fair⟩

theorem Sound.of_works (h : w.Sound base) (hworks : Relation.ReflTransGen (Works base) w w') :
    w'.Sound base := by
  induction hworks with
  | refl => exact h
  | tail _ hstep ih => exact ih.works hstep

theorem Reaches.sound {queue : TaskQueue} (hempty : queue.pending = []) (h : Reaches base queue w) :
    w.Sound base := by
  induction h with
  | refl =>
      exact ⟨hempty, fun _ hjob => absurd hjob List.not_mem_nil, fun _ hjob => absurd hjob List.not_mem_nil⟩
  | tail _ hstep ih => exact hstep.elim ih.works ih.offers

theorem course_of_leaves {task : Task} {past : List Event} {rest : Service (Except TaskFault Verification)}
    (h : (task.process base).Leaves past rest) (hfair : Task.Fair past) : Task.Course base task past := by
  cases h with
  | nothing => exact .untouched
  | heard answer hbefore =>
      obtain ⟨hpast, hdrawn⟩ := List.forall_mem_append.mp hfair
      exact (hbefore.keeps (task.process_keeps base)).1 hpast answer (hdrawn _ (List.mem_singleton.mpr rfl))

theorem Sound.course (h : w.Sound base) {job : Job} (hjob : job ∈ w.jobs) :
    Task.Course base job.task job.past :=
  course_of_leaves (h.leaves job hjob) (h.fair job hjob)

theorem Sound.ended (h : w.Sound base) {job : Job} (hjob : job ∈ w.jobs)
    {result : Except TaskFault Verification} (hrest : job.rest = .done result) :
    Task.Ended base job.task job.past result := by
  have hkeeps := (h.leaves job hjob).keeps (job.task.process_keeps base)
  rw [hrest] at hkeeps
  exact hkeeps (h.fair job hjob)

theorem Works.steps_eq (h : Works base w w') : w'.steps = w.steps + 1 ∧ w'.accepted = w.accepted := by
  cases h with
  | take htake =>
      refine ⟨?_, rfl⟩
      simp only [steps, List.length_append, List.length_singleton, List.map_append, List.sum_append]
      simp
      omega
  | hear answer hjobs hrest hdrawn =>
      refine ⟨?_, rfl⟩
      simp only [steps, hjobs, List.length_append, List.length_cons, List.map_append, List.map_cons,
        List.sum_append, List.sum_cons, List.length_nil]
      omega

theorem Sound.steps_le (h : w.Sound base) : w.steps ≤ 7 * w.accepted.length := by
  have hpast : ∀ job ∈ w.jobs, job.past.length ≤ 6 := by
    intro job hjob
    have hcourse := h.course hjob
    generalize job.past = past at hcourse
    cases hcourse <;> simp
  have hsum : (w.jobs.map fun job => job.past.length).sum ≤ w.jobs.length * 6 := by
    have := List.sum_le_card_nsmul (w.jobs.map fun job => job.past.length) 6 (by simpa using hpast)
    simpa using this
  have hjobs : w.jobs.length ≤ w.accepted.length := by
    rw [← h.tasks, List.length_append, List.length_map]
    omega
  rw [steps]
  omega

theorem exists_drawn (action : Action) : ∃ answer : action.Answer, Event.Drawn ⟨action, answer⟩ := by
  cases action with
  | codeDraws =>
      refine ⟨List.replicate Verification.codeLength 0, ?_⟩
      rintro draws ⟨⟩
      exact List.length_replicate
  | checkout => exact ⟨.ok (), Task.drawn_of_ne (by simp) _⟩
  | release => exact ⟨(), Task.drawn_of_ne (by simp) _⟩
  | send => exact ⟨.ok ⟨[], 0⟩, Task.drawn_of_ne (by simp) _⟩
  | sendWithin => exact ⟨.overdue, Task.drawn_of_ne (by simp) _⟩
  | clock => exact ⟨⟨0⟩, Task.drawn_of_ne (by simp) _⟩
  | announce => exact ⟨.ok (), Task.drawn_of_ne (by simp) _⟩
  | salt => exact ⟨[], Task.drawn_of_ne (by simp) _⟩
  | deliver => exact ⟨.ok (), Task.drawn_of_ne (by simp) _⟩

theorem exists_take {queue : TaskQueue} {task : Task} {tasks : List Task} (h : queue.pending = task :: tasks) :
    ∃ queue', queue.take = .ok (task, queue') := by
  unfold TaskQueue.take
  split
  · next hnil => cases hnil.symm.trans h
  · next hcons =>
      cases hcons.symm.trans h
      exact ⟨_, rfl⟩

/-- A worker cannot go on if and only if it has nothing left to do. -/
theorem isIdle_iff : w.IsIdle ↔ ∀ w', ¬Works base w w' := by
  refine ⟨fun ⟨hpending, hdone⟩ w' hstep => ?_, fun h => ⟨?_, ?_⟩⟩
  · cases hstep with
    | take htake => cases hpending.symm.trans (TaskQueue.take_eq_ok htake).1
    | @hear earlier later job action next answer hjobs hrest hdrawn =>
        obtain ⟨result, hresult⟩ := hdone job (by rw [hjobs]; simp)
        cases hresult.symm.trans hrest
  · by_contra hpending
    obtain ⟨task, rest, hcons⟩ := List.exists_cons_of_ne_nil hpending
    obtain ⟨queue, htake⟩ := exists_take hcons
    exact h _ (.take htake)
  · intro job hjob
    obtain ⟨earlier, later, hjobs⟩ := List.append_of_mem hjob
    cases hrest : job.rest with
    | done result => exact ⟨result, rfl⟩
    | ask action next =>
        obtain ⟨answer, hdrawn⟩ := exists_drawn action
        exact absurd (.hear answer hjobs hrest hdrawn) (h _)

/-- However the worker has gone on so far, it can go on to its end. -/
theorem Sound.finishes (h : w.Sound base) :
    ∃ w', Relation.ReflTransGen (Works base) w w' ∧ w'.IsIdle := by
  -- Each step takes the worker nearer to the most that it can make.
  induction hleft : 7 * w.accepted.length - w.steps using Nat.strongRecOn generalizing w with
  | ind left ih =>
      by_cases hstuck : ∃ w', Works base w w'
      case neg => exact ⟨w, .refl, isIdle_iff.mpr (not_exists.mp hstuck)⟩
      case pos =>
        obtain ⟨w', hstep⟩ := hstuck
        obtain ⟨hsteps, haccepted⟩ := hstep.steps_eq
        have hsound := h.works hstep
        have hle := hsound.steps_le
        rw [haccepted] at hle
        have hnearer : 7 * w'.accepted.length - w'.steps < left := by
          rw [haccepted]
          omega
        obtain ⟨last, hreach, hidle⟩ := ih _ hnearer hsound rfl
        exact ⟨last, .head hstep hreach, hidle⟩

section Runs
variable {σ : Type} {surroundings : (r : Action) → σ → r.Answer × σ}

theorem works_run (hdraws : ∀ state, (surroundings .codeDraws state).1.length = Verification.codeLength)
    (queue : TaskQueue) (jobs : List Job) (accepted : List Task) (task : Task) (past : List Event)
    (rest : Service (Except TaskFault Verification)) (state : σ) :
    Relation.ReflTransGen (Works base) ⟨queue, jobs ++ [⟨task, past, rest⟩], accepted⟩
      ⟨queue, jobs ++ [⟨task, past ++ rest.history surroundings state,
        .done (rest.run surroundings state).1⟩], accepted⟩ := by
  induction rest generalizing past state with
  | done result =>
      rw [Program.history, List.append_nil]
      exact .refl
  | ask action next ih =>
      have hdrawn : Event.Drawn ⟨action, (surroundings action state).1⟩ := by
        by_cases haction : action = .codeDraws
        case neg => exact Task.drawn_of_ne haction _
        case pos =>
          subst haction
          rintro draws heq
          cases heq
          exact hdraws state
      let before : Workshop := ⟨queue, jobs ++ [⟨task, past, .ask action next⟩], accepted⟩
      have hjobs : before.jobs = jobs ++ ⟨task, past, .ask action next⟩ :: [] := rfl
      have hstep : Works base before _ := .hear (surroundings action state).1 hjobs rfl hdrawn
      have hrest := ih (surroundings action state).1 (past ++ [⟨action, (surroundings action state).1⟩])
        (surroundings action state).2
      rw [List.append_assoc, List.singleton_append] at hrest
      exact .head hstep hrest

/-- Working the pending tasks off one after the other is one way for the worker to come to its end. -/
theorem works_processAll
    (hdraws : ∀ state, (surroundings .codeDraws state).1.length = Verification.codeLength)
    (tasks : List Task) {queue : TaskQueue} (hpending : queue.pending = tasks) (jobs : List Job)
    (accepted : List Task) (state : σ) :
    ∃ queue' jobs',
      Relation.ReflTransGen (Works base) ⟨queue, jobs, accepted⟩ ⟨queue', jobs ++ jobs', accepted⟩ ∧
      queue'.pending = [] ∧ jobs'.map Job.task = tasks ∧ (∀ job ∈ jobs', ∃ result, job.rest = .done result) ∧
      jobs'.flatMap Job.past = (Task.processAll base tasks).history surroundings state := by
  induction tasks generalizing queue jobs state with
  | nil => exact ⟨queue, [], by rw [List.append_nil], hpending, rfl, by simp, rfl⟩
  | cons task tasks ih =>
      obtain ⟨queue', htake⟩ := exists_take hpending
      have hpending' : queue'.pending = tasks :=
        (List.cons.inj ((TaskQueue.take_eq_ok htake).1.symm.trans hpending)).2
      let job : Job := ⟨task, (task.process base).history surroundings state,
        .done ((task.process base).run surroundings state).1⟩
      have hfirst : Relation.ReflTransGen (Works base) ⟨queue, jobs, accepted⟩
          ⟨queue', jobs ++ [job], accepted⟩ :=
        .head (.take htake) (works_run hdraws queue' jobs accepted task [] (task.process base) state)
      obtain ⟨last, jobs', hreach, hempty, htasks, hdone, hhistory⟩ :=
        ih hpending' (jobs ++ [job]) ((task.process base).run surroundings state).2
      rw [List.append_assoc] at hreach
      refine ⟨last, job :: jobs', hfirst.trans hreach, hempty, congrArg (task :: ·) htasks, ?_, ?_⟩
      · exact List.forall_mem_cons.mpr ⟨⟨_, rfl⟩, hdone⟩
      · rw [List.flatMap_cons, hhistory]
        exact (Program.history_bind surroundings (task.process base) (fun _ => Task.processAll base tasks)
          state).symm

theorem draws_rehearsed (r : Rehearsal) :
    (Rehearsal.surroundings .codeDraws r).1.length = Verification.codeLength :=
  Chance.length_draw (fun n => Fin.ofNat 62 n.toNat) Verification.codeLength r.chance

end Runs

/-- Whether the loop of the worker, left to itself in these surroundings, attempts each pending task once,
in their order, and comes to its end, whatever becomes of each of them. -/
def Loops {σ : Type} (base : String) (w : Workshop) (surroundings : (r : Action) → σ → r.Answer × σ)
    (state : σ) : Prop :=
  ∃ queue jobs, Relation.ReflTransGen (Works base) w { w with queue, jobs := w.jobs ++ jobs } ∧
    queue.pending = [] ∧ jobs.map Job.task = w.queue.pending ∧
    (Task.processAll base w.queue.pending).history surroundings state = jobs.flatMap Job.past ∧
    ∀ job ∈ jobs, ∃ result, job.rest = .done result ∧ Task.Handled base job.task job.past result

theorem Sound.loops {σ : Type} {surroundings : (r : Action) → σ → r.Answer × σ} (h : w.Sound base)
    (hdraws : ∀ state, (surroundings .codeDraws state).1.length = Verification.codeLength) (state : σ) :
    w.Loops base surroundings state := by
  obtain ⟨queue, jobs, hworks, hempty, htasks, hdone, hhistory⟩ :=
    @works_processAll base _ _ hdraws _ _ rfl w.jobs w.accepted state
  have hsound := h.of_works hworks
  refine ⟨queue, jobs, hworks, hempty, htasks, hhistory.symm, ?_⟩
  intro job hjob
  obtain ⟨result, hrest⟩ := hdone job hjob
  exact ⟨result, hrest, (hsound.ended (List.mem_append_right _ hjob) hrest).handled⟩

/-- What a worker has come to. -/
structure Account (base : String) (w : Workshop) : Prop where
  /-- the tasks that were taken and then those pending are the accepted ones, in this order -/
  tasks : w.jobs.map Job.task ++ w.queue.pending = w.accepted
  /-- each job is what its own answers have left of its task -/
  leaves : ∀ job ∈ w.jobs, (job.task.process base).Leaves job.past job.rest
  handling : ∀ job ∈ w.jobs, Task.Handling base job.task job.past
  handled : ∀ job ∈ w.jobs, ∀ result, job.rest = .done result → Task.Handled base job.task job.past result
  /-- a step of the worker is one of a limited number -/
  limited : w.steps ≤ 7 * w.accepted.length ∧
    ∀ w', Works base w w' → w'.steps = w.steps + 1 ∧ w'.accepted = w.accepted
  finishes : ∃ w', Relation.ReflTransGen (Works base) w w' ∧ w'.IsIdle
  stuck : (∀ w', ¬Works base w w') → w.IsIdle
  /-- a worker with nothing left to do has worked off each accepted task, and none of them twice -/
  finished : w.IsIdle → w.jobs.map Job.task = w.accepted ∧
    ∀ job ∈ w.jobs, ∃ result, Task.Handled base job.task job.past result
  /-- its loop works off what is pending, each task once -/
  loops : ∀ {σ : Type} (surroundings : (r : Action) → σ → r.Answer × σ),
    (∀ state, (surroundings .codeDraws state).1.length = Verification.codeLength) →
      ∀ state : σ, w.Loops base surroundings state

/-- Whatever is accepted, whatever is answered, and in whatever order the tasks go on: each accepted task
is worked off once, and independently of the others. -/
theorem tasks_worked_off_once {capacity : Nat} {queue : TaskQueue}
    (hqueue : TaskQueue.create capacity = .ok queue) {base : String} {w : Workshop} (h : Reaches base queue w) :
    Account base w := by
  have hempty : queue.pending = [] := by
    unfold TaskQueue.create at hqueue
    split at hqueue
    · cases hqueue
      rfl
    · cases hqueue
  have hsound := h.sound hempty
  constructor
  case tasks => exact hsound.tasks
  case leaves => exact hsound.leaves
  case handling => exact fun job hjob => (hsound.course hjob).handling
  case handled => exact fun job hjob result hrest => (hsound.ended hjob hrest).handled
  case limited => exact ⟨hsound.steps_le, fun w' hstep => hstep.steps_eq⟩
  case finishes => exact hsound.finishes
  case stuck => exact isIdle_iff.mpr
  case finished =>
    rintro ⟨hpending, hdone⟩
    have htasks := hsound.tasks
    rw [hpending, List.append_nil] at htasks
    refine ⟨htasks, fun job hjob => ?_⟩
    obtain ⟨result, hrest⟩ := hdone job hjob
    exact ⟨result, (hsound.ended hjob hrest).handled⟩
  case loops => exact fun surroundings hdraws state => hsound.loops hdraws state

theorem roomForTwo_room : ([] : List Task).length ≤ 2 := Nat.zero_le 2

def roomForTwo : TaskQueue := { capacity := 2, pending_le := roomForTwo_room }

/-- A database that does not know the ghost, but knows Bob and stores a record for him. -/
def knowsBob : Rehearsal where
  queue := roomForTwo
  linkBase := "https://bank.example/verify"
  cues := { replies := [[], [bob], [record]].map fun rows => { outcome := .ok ⟨rows, 1⟩ } }
where
  bob : Row := [("username", .text "bob"), ("hashed_password", .text ""), ("full_name", .text "Bob"),
    ("email", .text "bob@example.com"), ("password_changed_at", .int 0), ("is_email_verified", .bool false),
    ("created_at", .int 0)]
  record : Row := [("id", .int 7), ("username", .text "bob"), ("email", .text "bob@example.com"),
    ("secret_code", .text "abcdefghijklmnopqrstuvwxyz012345"), ("is_used", .bool false),
    ("created_at", .int 0), ("expired_at", .int 9999999999999999)]

/-- The task for the ghost fails, and Bob is mailed all the same. -/
theorem tasks_worked_off_once_knowsBob :
    TaskQueue.create 2 = .ok roomForTwo ∧
      ∃ w, Reaches knowsBob.linkBase roomForTwo w ∧ w.jobs.map Job.task = [⟨"ghost"⟩, ⟨"bob"⟩] ∧
        (∀ job ∈ w.jobs, ∃ result, Task.Handled knowsBob.linkBase job.task job.past result) ∧
        Service.mailed (w.jobs.flatMap Job.past) =
          [{ subject := "Welcome to Bank Ledger"
             content := "Hello Bob, <br/>Thank you for registering with us! <br/>Please " ++
               "<a href=\"https://bank.example/verify?email_id=7&" ++
               "secret_code=abcdefghijklmnopqrstuvwxyz012345\">click here</a> " ++
               "to verify your email address.<br/>"
             recipients := ["bob@example.com"] }] := by
  have hqueue : TaskQueue.create 2 = .ok roomForTwo := rfl
  obtain ⟨first, hfirst⟩ : ∃ queue, roomForTwo.offer ⟨"ghost"⟩ = .ok queue := ⟨_, rfl⟩
  obtain ⟨second, hsecond⟩ : ∃ queue, first.offer ⟨"bob"⟩ = .ok queue := by
    cases hfirst
    exact ⟨_, rfl⟩
  have hpending : second.pending = [⟨"ghost"⟩, ⟨"bob"⟩] := by
    rw [(TaskQueue.offer_gains hsecond).pending, (TaskQueue.offer_gains hfirst).pending]
    rfl
  have haccepted : Reaches knowsBob.linkBase roomForTwo ⟨second, [], [⟨"ghost"⟩, ⟨"bob"⟩]⟩ :=
    (Relation.ReflTransGen.single (.inr (.accept hfirst))).tail (.inr (.accept hsecond))
  obtain ⟨last, jobs, hworks, hempty, -, hhistory, hhandled⟩ :=
    (tasks_worked_off_once hqueue haccepted).loops Rehearsal.surroundings draws_rehearsed knowsBob
  have hreaches : Reaches knowsBob.linkBase roomForTwo ⟨last, jobs, [⟨"ghost"⟩, ⟨"bob"⟩]⟩ :=
    haccepted.trans (Relation.ReflTransGen.mono (fun _ _ hstep => .inl hstep) _ _ hworks)
  have hdone : ∀ job ∈ jobs, ∃ result, job.rest = .done result := by
    intro job hjob
    obtain ⟨result, hrest, -⟩ := hhandled job hjob
    exact ⟨result, hrest⟩
  have hfinished := (tasks_worked_off_once hqueue hreaches).finished ⟨hempty, hdone⟩
  refine ⟨hqueue, _, hreaches, hfinished.1, hfinished.2, ?_⟩
  dsimp only at hhistory
  rw [← hhistory, hpending]
  decide +kernel

end Workshop
end Passbook
