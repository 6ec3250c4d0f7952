import Passbook.Proofs.Concurrency.Session

/-!
# Serial order

Whatever the order of the steps, the drafts that took effect could have been carried out one after the
other, each as a whole, in the order of their COMMITs. Since no two open transactions hold the same row,
what one of them has done is not touched by the COMMIT of another, and could still be done in the same
way afterwards.
-/
namespace Passbook

open Service (Event heard)

/-- Whether the statements of a draft are steady and none of them has deleted anything. -/
def Draft.Steady (draft : Draft) : Prop :=
  ∀ deed ∈ draft, deed.statement.Steady ∧ ∀ key, deed.effect ≠ .remove key

/-- What becomes of a connection, as far as the rows it holds and its changes go. `sent` tells the
statements that may be carried out. -/
structure Moves (db : Database) (taken : Key → Prop) (sent : Statement → Prop)
    (standing standing' : Standing) (committed? : Option Draft) : Prop where
  held : ∀ key ∈ standing'.held, key ∈ standing.held ∨ ¬taken key
  draft : ∀ draft, standing'.draft? = some draft →
    draft = [] ∨ standing.draft? = some draft ∨ ∃ earlier deed stamp, standing.draft? = some earlier ∧
      draft = earlier ++ [deed] ∧ sent deed.statement ∧
      (db.after earlier).execute stamp deed.statement = .ok (deed.answer, deed.effect)
  committed : ∀ draft, committed? = some draft → standing.draft? = some draft ∧ standing'.draft? = none

variable {db : Database} {taken : Key → Prop} {sent : Statement → Prop}

theorem Moves.same (standing : Standing) : Moves db taken sent standing standing none where
  held _ hkey := .inl hkey
  draft _ hdraft := .inr (.inl hdraft)
  committed := nofun

/-- A transaction of which nothing is left, except perhaps rows that it held. -/
theorem Moves.of_gone {standing standing' : Standing} {committed? : Option Draft}
    (hheld : standing'.held ⊆ standing.held) (hdraft : standing'.draft? = none)
    (hcommitted : ∀ draft, committed? = some draft → standing.draft? = some draft) :
    Moves db taken sent standing standing' committed? where
  held _ hkey := .inl (hheld hkey)
  draft _ hsome := by
    rw [hdraft] at hsome
    cases hsome
  committed draft hsome := ⟨hcommitted draft hsome, hdraft⟩

theorem Standing.Spoils.moves {standing standing' : Standing} (h : standing.Spoils standing') :
    Moves db taken sent standing standing' none := by
  cases h with
  | same => exact .same standing
  | doomed => exact .of_gone (List.Subset.refl _) rfl nofun
  | lost => exact .of_gone (List.Subset.refl _) rfl nofun

theorem Moves.executed {draft : Draft} {statement : Statement} {stamp : Stamp} {answer : Answer}
    {effect : Effect} (hsent : sent statement)
    (hexecute : (db.after draft).execute stamp statement = .ok (answer, effect))
    (hfree : ∀ key, effect.key? = some key → ¬taken key) :
    Moves db taken sent (.active draft) (.active (draft ++ [⟨statement, answer, effect⟩])) none where
  held key hkey := by
    obtain ⟨deed, hdeed, heq⟩ := Draft.mem_keys.mp hkey
    rcases List.mem_append.mp hdeed with hdeed | hdeed
    · exact .inl (Draft.mem_keys.mpr ⟨deed, hdeed, heq⟩)
    · rw [List.mem_singleton] at hdeed
      subst hdeed
      exact .inr (hfree key heq)
  draft draft' hdraft := by
    cases hdraft
    exact .inr (.inr ⟨draft, ⟨statement, answer, effect⟩, stamp, rfl, rfl, hsent, hexecute⟩)
  committed := nofun

theorem Answers.moves {action : Service.Action} {standing standing' : Standing} {answer : action.Answer}
    {committed? : Option Draft} (h : Answers db taken action standing answer standing' committed?)
    (hsent : ∀ statement patience, action = .sendWithin statement patience → sent statement) :
    Moves db taken sent standing standing' committed? := by
  cases h with
  | quiet => exact .same standing
  | begun =>
      exact ⟨fun _ h => absurd h List.not_mem_nil, fun _ h => .inl (Option.some.inj h).symm, nofun⟩
  | limited => exact .same _
  | executed _ hexecute hfree => exact .executed (hsent _ _ rfl) hexecute hfree
  | unheard _ _ hexecute hfree => exact .executed (hsent _ _ rfl) hexecute hfree
  | failed _ _ hspoils => exact hspoils.moves
  | overdue hspoils => exact hspoils.moves
  | committed => exact .of_gone (List.nil_subset _) rfl fun _ h => h
  | uncertain => exact ⟨fun _ h => .inl h, fun _ h => .inr (.inl h), nofun⟩
  | void => exact .of_gone (List.nil_subset _) rfl nofun
  | undone => exact .of_gone (List.nil_subset _) rfl nofun
  | refused _ _ hspoils => exact hspoils.moves

theorem Drifts.moves {standing standing' : Standing} {committed? : Option Draft}
    (h : Drifts taken standing standing' committed?) :
    Moves db taken sent standing standing' committed? := by
  cases h with
  | lost => exact .of_gone (List.Subset.refl _) rfl nofun
  | noticed => exact .of_gone (List.nil_subset _) rfl nofun
  | late hfree =>
      refine ⟨fun key hkey => ?_, nofun, nofun⟩
      rcases List.mem_cons.mp hkey with rfl | hkey
      · exact .inr hfree
      · exact .inl hkey
  | applied => exact .of_gone (List.nil_subset _) rfl fun _ h => h
  | dropped => exact .of_gone (List.nil_subset _) rfl nofun

theorem Standing.held_of_draft {standing : Standing} {draft : Draft} (h : standing.draft? = some draft) :
    standing.held = draft.keys := by
  cases standing <;> cases h <;> rfl

theorem AskedInOrder.steady {α : Type} {body : Script α} (hbody : body.Reliable) {past : List Event}
    {statement : Statement} {patience : Nat} (h : AskedInOrder body past (.sendWithin statement patience)) :
    statement.Steady := by
  obtain ⟨millis, next, hcourse⟩ := h
  exact hcourse.sends hbody.steady

namespace World

section
variable {ι : Type} {α : ι → Type} {w : World α}

/-- What holds of all connections together: no row is held twice, what is open could be carried out on
what has been committed, and that could have been carried out in the order of the COMMITs. -/
structure Undisturbed (w : World α) : Prop where
  exclusive : ∀ i j key, key ∈ (w.sessions i).standing.held → key ∈ (w.sessions j).standing.held → i = j
  steady : ∀ i draft, (w.sessions i).standing.draft? = some draft → draft.Steady
  replays : ∀ i draft, (w.sessions i).standing.draft? = some draft → draft.Replays w.database
  serial : Draft.Replays w.origin (w.commits.flatMap (·.2))

/-- Changes that may take effect at once: they can be carried out on what has been committed, delete
nothing and keep off the rows that others hold. -/
structure Admissible (db : Database) (taken : Key → Prop) (draft : Draft) : Prop where
  replays : draft.Replays db
  adds : ∀ deed ∈ draft, ∀ key, deed.effect ≠ .remove key
  free : ∀ key ∈ draft.keys, ¬taken key

namespace Undisturbed

theorem start (origin : Database) (services : (i : ι) → Service (Except Failure (α i))) :
    (World.start origin services).Undisturbed where
  exclusive _ _ _ hkey := absurd hkey List.not_mem_nil
  steady := nofun
  replays := nofun
  serial := trivial

/-- After a move, the changes of the session itself can be carried out on what has been committed. -/
theorem own_draft (h : w.Undisturbed) {i : ι} {standing : Standing} {committed? : Option Draft}
    (hsteady : ∀ statement, sent statement → statement.Steady)
    (hmoves : Moves w.database (w.taken i) sent (w.sessions i).standing standing committed?)
    {draft : Draft} (hdraft : standing.draft? = some draft) :
    draft.Steady ∧ draft.Replays w.database := by
  rcases hmoves.draft draft hdraft with rfl | hsame | ⟨earlier, deed, stamp, hearlier, rfl, hsent, hexecute⟩
  · exact ⟨fun _ hdeed => absurd hdeed List.not_mem_nil, trivial⟩
  · exact ⟨h.steady i draft hsame, h.replays i draft hsame⟩
  · constructor
    · intro other hother
      rcases List.mem_append.mp hother with hother | hother
      · exact h.steady i earlier hearlier other hother
      · rw [List.mem_singleton] at hother
        subst hother
        exact ⟨hsteady _ hsent, (hsteady _ hsent).adds hexecute⟩
    · exact Draft.replays_append.mpr ⟨h.replays i earlier hearlier, .inr ⟨stamp, hexecute⟩, trivial⟩

/-- The changes of another session can still be carried out after those of `i` took effect. -/
theorem other_draft (h : w.Undisturbed) {i j : ι} (hj : j ≠ i) {committed draft : Draft}
    (hcommitted : Admissible w.database (w.taken i) committed)
    (hdraft : (w.sessions j).standing.draft? = some draft) :
    draft.Replays (w.database.after committed) := by
  refine (h.replays j draft hdraft).of_keeps (fun deed hdeed => (h.steady j draft hdraft deed hdeed).1) ?_
  refine Database.keeps_after hcommitted.adds (fun key hkey hkey' => ?_) _
  rw [← Standing.held_of_draft hdraft] at hkey'
  exact hcommitted.free key hkey ⟨j, hj, hkey'⟩

/-- An open transaction may be committed. -/
theorem admissible (h : w.Undisturbed) {i : ι} {draft : Draft}
    (hdraft : (w.sessions i).standing.draft? = some draft) :
    Admissible w.database (w.taken i) draft where
  replays := h.replays i draft hdraft
  adds deed hdeed := (h.steady i draft hdraft deed hdeed).2
  free key hkey := by
    rintro ⟨j, hj, hkey'⟩
    rw [← Standing.held_of_draft hdraft] at hkey
    exact hj (h.exclusive j i key hkey' hkey)

end Undisturbed
end

variable {ι : Type} [DecidableEq ι] {α : ι → Type}

structure Sound (bodies : (i : ι) → Script (α i)) (w : World α) : Prop extends w.Undisturbed where
  session : ∀ i, (w.sessions i).Sound (bodies i) (w.draftsOf i)

variable {bodies : (i : ι) → Script (α i)} {w : World α}

namespace Undisturbed

theorem exclusive_become (h : w.Undisturbed) {i : ι} {session : Session (α i)} {committed? : Option Draft}
    (hheld : ∀ key ∈ session.standing.held, key ∈ (w.sessions i).standing.held ∨ ¬w.taken i key) {j : ι}
    (hj : j ≠ i) {key : Key} (hkey : key ∈ ((w.become i session committed?).sessions i).standing.held) :
    key ∉ ((w.become i session committed?).sessions j).standing.held := by
  rw [become_sessions_self] at hkey
  rw [become_sessions_of_ne w hj]
  intro hkey'
  rcases hheld key hkey with hold | hfree
  · exact hj (h.exclusive j i key hkey' hold)
  · exact hfree ⟨j, hj, hkey'⟩

/-- What one session may become, and what may take effect with it. -/
theorem become (h : w.Undisturbed) {i : ι} {session : Session (α i)} {committed? : Option Draft}
    (hheld : ∀ key ∈ session.standing.held, key ∈ (w.sessions i).standing.held ∨ ¬w.taken i key)
    (hown : ∀ draft, session.standing.draft? = some draft →
      committed? = none ∧ draft.Steady ∧ draft.Replays w.database)
    (hcommitted : ∀ draft, committed? = some draft → Admissible w.database (w.taken i) draft) :
    (w.become i session committed?).Undisturbed where
  exclusive j k key hkey hkey' := by
    by_cases hj : j = i
    · subst hj
      by_contra hne
      exact h.exclusive_become hheld (Ne.symm hne) hkey hkey'
    · by_cases hk : k = i
      · subst hk
        exact absurd hkey (h.exclusive_become hheld hj hkey')
      · rw [become_sessions_of_ne w hj] at hkey
        rw [become_sessions_of_ne w hk] at hkey'
        exact h.exclusive j k key hkey hkey'
  steady j draft hdraft := by
    by_cases hj : j = i
    · subst hj
      rw [become_sessions_self] at hdraft
      exact (hown draft hdraft).2.1
    · rw [become_sessions_of_ne w hj] at hdraft
      exact h.steady j draft hdraft
  replays j draft hdraft := by
    rw [become_database]
    by_cases hj : j = i
    · subst hj
      rw [become_sessions_self] at hdraft
      obtain ⟨rfl, _, hreplays⟩ := hown draft hdraft
      exact hreplays
    · rw [become_sessions_of_ne w hj] at hdraft
      cases hsome : committed? with
      | none => exact h.replays j draft hdraft
      | some committed => exact h.other_draft hj (hcommitted committed hsome) hdraft
  serial := by
    cases hsome : committed? with
    | none => simpa [World.become] using h.serial
    | some committed =>
        simpa [World.become, Draft.replays_append] using ⟨h.serial, (hcommitted committed hsome).replays⟩

/-- A move that carries out steady statements only disturbs nobody. -/
theorem of_moves (h : w.Undisturbed) {i : ι} {session : Session (α i)} {committed? : Option Draft}
    (hsteady : ∀ statement, sent statement → statement.Steady)
    (hmoves : Moves w.database (w.taken i) sent (w.sessions i).standing session.standing committed?) :
    (w.become i session committed?).Undisturbed := by
  refine h.become hmoves.held (fun draft hdraft => ⟨?_, h.own_draft hsteady hmoves hdraft⟩) ?_
  · cases hsome : committed? with
    | none => rfl
    | some committed => cases hdraft.symm.trans (hmoves.committed committed hsome).2
  · exact fun committed hsome => h.admissible (hmoves.committed committed hsome).1

theorem answers (h : w.Undisturbed) {i : ι} {action : Service.Action} {answer : action.Answer}
    {session : Session (α i)} {committed? : Option Draft}
    (hanswers : Answers w.database (w.taken i) action (w.sessions i).standing answer session.standing
      committed?)
    (hsteady : ∀ statement patience, action = .sendWithin statement patience → statement.Steady) :
    (w.become i session committed?).Undisturbed := by
  have hmoves : Moves w.database (w.taken i)
      (fun statement => ∃ patience, action = .sendWithin statement patience)
      (w.sessions i).standing session.standing committed? :=
    hanswers.moves fun statement patience heq => ⟨patience, heq⟩
  exact h.of_moves (fun statement ⟨patience, heq⟩ => hsteady statement patience heq) hmoves

theorem drifts (h : w.Undisturbed) {i : ι} {session : Session (α i)} {committed? : Option Draft}
    (hdrifts : Drifts (w.taken i) (w.sessions i).standing session.standing committed?) :
    (w.become i session committed?).Undisturbed := by
  have hmoves : Moves w.database (w.taken i) (fun _ => False) (w.sessions i).standing session.standing
      committed? := hdrifts.moves
  exact h.of_moves nofun hmoves

/-- What took effect last could be carried out on what had been committed before. -/
theorem replays_committed {i : ι} {session : Session (α i)} {draft : Draft}
    (h : (w.become i session (some draft)).Undisturbed) : draft.Replays w.database := by
  have hserial := h.serial
  rw [become_commits, List.flatMap_append, Draft.replays_append] at hserial
  simp only [Option.map_some, Option.toList_some, List.flatMap_singleton] at hserial
  exact hserial.2

end Undisturbed

/-- A step of one session keeps the world sound if it keeps that session sound and disturbs nobody. -/
theorem Sound.become (h : w.Sound bodies) {i : ι} {session : Session (α i)} {committed? : Option Draft}
    (hsession : session.Sound (bodies i) (w.draftsOf i ++ committed?.toList))
    (hundisturbed : (w.become i session committed?).Undisturbed) :
    (w.become i session committed?).Sound bodies where
  toUndisturbed := hundisturbed
  session j := by
    by_cases hj : j = i
    · subst hj
      rw [become_sessions_self, become_draftsOf_self]
      exact hsession
    · rw [become_sessions_of_ne w hj, become_draftsOf_of_ne w hj]
      exact h.session j

theorem Sound.step (hbodies : ∀ i, (bodies i).Reliable) (h : w.Sound bodies) {w' : World α}
    (hstep : Step w w') : w'.Sound bodies := by
  cases hstep with
  | @answered i action next answer standing committed? hrest hanswers =>
      have hkeeps := (h.session i).keeps
      rw [hrest] at hkeeps
      have hsteady : ∀ statement patience, action = .sendWithin statement patience →
          statement.Steady := by
        rintro statement patience rfl
        exact AskedInOrder.steady (hbodies i) hkeeps.1
      exact h.become ((h.session i).answers (hbodies i) hrest hanswers)
        (h.toUndisturbed.answers hanswers hsteady)
  | @drifted i standing committed? hdrifts =>
      exact h.become ((h.session i).drifts hdrifts) (h.toUndisturbed.drifts hdrifts)

theorem Sound.start {services : (i : ι) → Service (Except Failure (α i))}
    (h : ∀ i, (services i).Keeps (AskedInOrder (bodies i)) (Accounted (bodies i)) []) (origin : Database) :
    (World.start origin services).Sound bodies where
  toUndisturbed := .start origin services
  session i := .start (h i)

/-- Everything that services can come to is sound. -/
theorem Sound.of_reaches {services : (i : ι) → Service (Except Failure (α i))}
    (hbodies : ∀ i, (bodies i).Reliable)
    (h : ∀ i, (services i).Keeps (AskedInOrder (bodies i)) (Accounted (bodies i)) []) {origin : Database}
    (hreaches : Reaches origin services w) : w.Sound bodies := by
  induction hreaches with
  | refl => exact .start h origin
  | tail _ hstep ih => exact ih.step hbodies hstep

/-- One change of the tables after the other, each by the session that is listed for it. -/
inductive Successive {ι : Type} (change : ι → Database → Database → Prop) (origin : Database) :
    List ι → Database → Prop
  | nil : Successive change origin [] origin
  | snoc {earlier : List ι} {i : ι} {db db' : Database} :
      Successive change origin earlier db → change i db db' → Successive change origin (earlier ++ [i]) db'

theorem mem_draftsOf {i : ι} {draft : Draft} : draft ∈ w.draftsOf i ↔ (i, draft) ∈ w.commits := by
  simp [draftsOf]

theorem mem_commits {i : ι} : i ∈ w.commits.map (·.1) ↔ w.draftsOf i ≠ [] := by
  simp [draftsOf]

/-- A session that has a value took effect. -/
theorem Sound.committed (h : w.Sound bodies) {i : ι} {value : α i}
    (hrest : (w.sessions i).rest = .done (.ok value)) : i ∈ w.commits.map (·.1) := by
  obtain ⟨draft, _, hdrafts, _⟩ := (h.session i).ok hrest
  rw [mem_commits, hdrafts]
  exact List.cons_ne_nil draft []

/-- A session that has failed otherwise than by its COMMIT did not take effect. -/
theorem Sound.not_committed (h : w.Sound bodies) {i : ι} {failure : Failure}
    (hrest : (w.sessions i).rest = .done (.error failure))
    (hfailure : ∀ fault, failure ≠ .commitFailed fault) : i ∉ w.commits.map (·.1) := by
  rw [mem_commits, (h.session i).error hrest hfailure]
  exact fun hne => hne rfl

/-- What has been committed came about by one whole transaction after the other. -/
theorem Sound.successive {change : ι → Database → Database → Prop} (h : w.Sound bodies)
    (hchange : ∀ {i draft db}, draft ∈ w.draftsOf i → draft.Replays db → change i db (db.after draft)) :
    Successive change w.origin (w.commits.map (·.1)) w.database := by
  have hcommits : ∀ commit ∈ w.commits, commit.2 ∈ w.draftsOf commit.1 :=
    fun commit hcommit => mem_draftsOf.mpr hcommit
  have hserial := h.serial
  unfold database
  generalize w.commits = commits at hcommits hserial
  induction commits using List.reverseRecOn with
  | nil => exact .nil
  | append_singleton earlier commit ih =>
      rw [List.flatMap_append, List.flatMap_singleton, Draft.replays_append] at hserial
      rw [List.map_append, List.flatMap_append, List.flatMap_singleton, Database.after_append]
      exact .snoc (ih (fun commit hcommit => hcommits commit (List.mem_append_left _ hcommit)) hserial.1)
        (hchange (hcommits commit (by simp)) hserial.2)

/-- One step commits nothing, or one whole draft on what has been committed before. -/
theorem Sound.of_step {w' : World α} (h : w'.Sound bodies) (hstep : Step w w') :
    w'.commits = w.commits ∧ w'.database = w.database ∨ ∃ i draft,
      w'.commits = w.commits ++ [(i, draft)] ∧ draft ∈ w'.draftsOf i ∧ draft.Replays w.database ∧
      w'.database = w.database.after draft := by
  obtain ⟨i, session, committed?, rfl⟩ := hstep.become_eq
  cases committed? with
  | none => exact .inl ⟨List.append_nil _, become_database ..⟩
  | some draft =>
      refine .inr ⟨i, draft, rfl, ?_, ?_, become_database ..⟩
      · rw [become_draftsOf_self]
        exact List.mem_append_right _ List.mem_cons_self
      · exact h.toUndisturbed.replays_committed

/-- A session takes effect at most once. -/
theorem Sound.nodup_commits (h : w.Sound bodies) : (w.commits.map (·.1)).Nodup := by
  rw [List.nodup_iff_count_le_one]
  intro i
  have hlength := (h.session i).length_le_one
  rw [draftsOf, List.length_map, ← List.countP_eq_length_filter] at hlength
  rw [List.count_eq_countP, List.countP_map]
  refine Nat.le_trans (Nat.le_of_eq ?_) hlength
  exact List.countP_congr fun commit _ => by simp

end World

end Passbook
