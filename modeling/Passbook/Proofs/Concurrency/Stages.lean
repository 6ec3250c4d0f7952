import Passbook.Proofs.Concurrency.World

/-!
# From answer to answer

A run of some sessions is put together answer by answer. What counts of a world is what is left of each
service, what the database keeps for its connection, and what has taken effect. Each lemma goes on with one
session, while the others stay where they are; they hold for every kind of steps that has those of
transactions among it.
-/
namespace Passbook.World

open Service (Action)

variable {ι : Type} {α : ι → Type}

/-- What is left of each service, with what the database keeps for its connection. -/
abbrev Poses (α : ι → Type) : Type := (i : ι) → Service (Except Failure (α i)) × Standing

/-- Whether another session than that of `i` holds a row. -/
def Poses.Taken (poses : Poses α) (i : ι) (key : Key) : Prop := ∃ j, j ≠ i ∧ key ∈ (poses j).2.held

variable [DecidableEq ι]

instance [Fintype ι] (poses : Poses α) (i : ι) (key : Key) : Decidable (poses.Taken i key) :=
  inferInstanceAs (Decidable (∃ j, j ≠ i ∧ key ∈ (poses j).2.held))

/-- Whether steps of a kind lead from a world to one in which the sessions stand like this and these drafts
have taken effect. -/
structure Leads (kind : World α → World α → Prop) (origin : Database) (v : World α) (poses : Poses α)
    (commits : List (ι × Draft)) : Prop where
  steps : ∀ w w', Step w w' → kind w w'
  reaches : ∃ w, Relation.ReflTransGen kind v w ∧ w.origin = origin ∧ w.commits = commits ∧
    ∀ i, ((w.sessions i).rest, (w.sessions i).standing) = poses i

namespace Leads

variable {kind : World α → World α → Prop} {origin : Database} {v : World α} {poses : Poses α}
  {commits : List (ι × Draft)}

theorem start (hsteps : ∀ w w', Step w w' → kind w w') (origin : Database)
    (services : (i : ι) → Service (Except Failure (α i))) :
    Leads kind origin (World.start origin services) (fun i => (services i, .idle)) [] :=
  ⟨hsteps, World.start origin services, .refl, rfl, rfl, fun _ => rfl⟩

/-- A run can be looked at where it stands, and goes on from there. -/
theorem pause (h : Leads kind origin v poses commits) :
    ∃ w, Relation.ReflTransGen kind v w ∧ w.origin = origin ∧ w.commits = commits ∧
      (∀ i, ((w.sessions i).rest, (w.sessions i).standing) = poses i) ∧ Leads kind origin w poses commits := by
  obtain ⟨w, hreaches, horigin, hcommits, hposes⟩ := h.reaches
  exact ⟨w, hreaches, horigin, hcommits, hposes, h.steps, w, .refl, horigin, hcommits, hposes⟩

/-- The lemmas below speak of one session, which is singled out here. -/
theorem single (h : Leads kind origin v poses commits) (i : ι) :
    Leads kind origin v (Function.update poses i (poses i)) commits := by
  rwa [Function.update_eq_self]

variable {i : ι}

/-- A step that answers one session. -/
theorem moved {action : Action} {next : action.Answer → Service (Except Failure (α i))}
    {standing standing' : Standing} {committed? : Option Draft}
    (h : Leads kind origin v (Function.update poses i (.ask action next, standing)) commits)
    (answer : action.Answer)
    (hmoves : ∀ w : World α, (w.sessions i).rest = .ask action next → (w.sessions i).standing = standing →
      w.database = origin.after (commits.flatMap (·.2)) → w.taken i = poses.Taken i →
      kind w (w.become i ⟨next answer, (w.sessions i).past ++ [⟨action, answer⟩], standing'⟩ committed?)) :
    Leads kind origin v (Function.update poses i (next answer, standing'))
      (commits ++ (committed?.map fun draft => (i, draft)).toList) := by
  obtain ⟨hsteps, w, hreaches, horigin, hcommits, hposes⟩ := h
  have hown := hposes i
  rw [Function.update_self, Prod.mk.injEq] at hown
  have hothers : ∀ j, j ≠ i → ((w.sessions j).rest, (w.sessions j).standing) = poses j := by
    intro j hj
    rw [hposes j, Function.update_of_ne hj]
  have hdatabase : w.database = origin.after (commits.flatMap (·.2)) := by
    rw [database, horigin, hcommits]
  have htaken : w.taken i = poses.Taken i := by
    funext key
    refine propext (exists_congr fun j => and_congr_right fun hj => ?_)
    rw [← hothers j hj]
  refine ⟨hsteps, _, hreaches.tail (hmoves w hown.1 hown.2 hdatabase htaken), horigin, ?_, ?_⟩
  · rw [become_commits, hcommits]
  · intro j
    by_cases hj : j = i
    · subst hj
      rw [become_sessions_self, Function.update_self]
    · rw [become_sessions_of_ne w hj, Function.update_of_ne hj]
      exact hothers j hj

theorem answered {action : Action} {next : action.Answer → Service (Except Failure (α i))}
    {standing standing' : Standing} {committed? : Option Draft}
    (h : Leads kind origin v (Function.update poses i (.ask action next, standing)) commits)
    (answer : action.Answer)
    (hanswers : Answers (origin.after (commits.flatMap (·.2))) (poses.Taken i) action standing answer
      standing' committed?) :
    Leads kind origin v (Function.update poses i (next answer, standing'))
      (commits ++ (committed?.map fun draft => (i, draft)).toList) := by
  apply h.moved answer
  intro w hrest hstanding hdatabase htaken
  subst hstanding
  exact h.steps w _ (.answered hrest (hdatabase ▸ htaken ▸ hanswers))

/-- An answer by which nothing takes effect. -/
theorem heard {action : Action} {next : action.Answer → Service (Except Failure (α i))}
    {standing standing' : Standing}
    (h : Leads kind origin v (Function.update poses i (.ask action next, standing)) commits)
    (answer : action.Answer)
    (hanswers : Answers (origin.after (commits.flatMap (·.2))) (poses.Taken i) action standing answer
      standing' none) :
    Leads kind origin v (Function.update poses i (next answer, standing')) commits := by
  have hanswered := h.answered answer hanswers
  rwa [Option.map_none, Option.toList_none, List.append_nil] at hanswered

section
variable {β γ : Type} {rest : Except Failure γ → Service (Except Failure (α i))}

/-- The frame before the script of a transaction. -/
theorem begun {limit : Nat} {body : Script γ}
    (h : Leads kind origin v (Function.update poses i ((atomically limit body).bind rest, .idle)) commits) :
    Leads kind origin v (Function.update poses i
      ((Script.within limit body.run).bind fun result => (conclude result).bind rest, .active [])) commits := by
  rw [atomically_eq] at h
  have hopened := h.heard (Except.ok ()) (.quiet _ trivial)
  have hbegun := hopened.heard (Except.ok ⟨[], 0⟩) (.begun _)
  have hlimited := hbegun.heard (Except.ok ⟨[], 0⟩) (.limited _)
  rwa [Program.bind_assoc] at hlimited

theorem begins {limit : Nat} {body : Script (α i)}
    (h : Leads kind origin v (Function.update poses i (atomically limit body, .idle)) commits) :
    Leads kind origin v (Function.update poses i
      ((Script.within limit body.run).bind fun result => (conclude result).bind .done, .active [])) commits := by
  rw [← Program.bind_done (atomically limit body)] at h
  exact h.begun

/-- A query that is carried out in time and answered with what can be read. -/
theorem query {query : Query β} {next : β → Script γ} {patience : Nat} {draft : Draft} {answer : Answer}
    {effect : Effect} {found : β}
    (h : Leads kind origin v (Function.update poses i
      ((Script.within patience (Script.query query >>= next).run).bind rest, .active draft)) commits)
    (stamp : Stamp) (after : Nat)
    (hexecute : ((origin.after (commits.flatMap (·.2))).after draft).execute stamp query.statement =
      .ok (answer, effect))
    (hread : query.read answer = .ok found) (hfree : ∀ key ∈ effect.key?, ¬poses.Taken i key) :
    Leads kind origin v (Function.update poses i ((Script.within (patience - after) (next found).run).bind rest,
      .active (draft ++ [⟨query.statement, answer, effect⟩]))) commits := by
  rw [Script.run_query_bind, Script.within, Program.ask_bind] at h
  have hanswered := h.heard (TimedReply.inTime after (.ok answer)) (.executed after hexecute hfree)
  simpa only [Query.result, hread] using hanswered

theorem clock {next : Instant → Script γ} {patience : Nat} {standing : Standing} (now : Instant)
    (h : Leads kind origin v (Function.update poses i
      ((Script.within patience (Script.clock >>= next).run).bind rest, standing)) commits) :
    Leads kind origin v (Function.update poses i
      ((Script.within patience (next now).run).bind rest, standing)) commits := by
  rw [Script.run_clock_bind, Script.within, Program.ask_bind] at h
  exact h.heard now (.quiet _ trivial)

/-- The COMMIT of a script that has come to a value. -/
theorem committed {value : γ} {patience : Nat} {draft : Draft}
    (h : Leads kind origin v (Function.update poses i
      ((Script.within patience (pure value : Script γ).run).bind fun result => (conclude result).bind rest,
        .active draft)) commits) :
    Leads kind origin v (Function.update poses i (rest (.ok value), .idle)) (commits ++ [(i, draft)]) := by
  have hcommitted := h.answered (Except.ok ⟨[], 0⟩) (.committed _)
  exact hcommitted.heard () (.quiet _ trivial)

/-- The ROLLBACK of a script that has failed. -/
theorem undone {failure : Failure} {patience : Nat} {draft : Draft}
    (h : Leads kind origin v (Function.update poses i
      ((Script.within patience (Script.fail failure : Script γ).run).bind fun result =>
        (conclude result).bind rest, .active draft)) commits) :
    Leads kind origin v (Function.update poses i (rest (.error failure), .idle)) commits := by
  have hundone := h.heard (Except.ok ⟨[], 0⟩) (.undone _ trivial)
  exact hundone.heard () (.quiet _ trivial)

end
end Leads

end Passbook.World
