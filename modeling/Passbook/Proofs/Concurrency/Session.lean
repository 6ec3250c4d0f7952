import Passbook.Proofs.Concurrency.World
import Passbook.Proofs.Transaction.Commits

/-!
# What one session can know

What a session has heard and what the database keeps for it fit together: as long as the session has
had an answer to everything, its transaction holds the statements that it knows of and no others. So
what takes effect by its COMMIT is what its script has done, and it takes effect at most once; it does
if COMMIT was acknowledged, and it does not if none was asked for.
-/
namespace Passbook

open Service (Event heard transcript Uncommitted commits)

variable {α : Type}

/-- A script that can be relied on: it does not end as if a COMMIT had failed, its statements are
steady, and it has a value only after an answer to each of them. -/
structure Script.Reliable (body : Script α) : Prop where
  decided : Script.Decided body.run
  steady : Script.Sends Statement.Steady body.run
  answered : ∀ {heard millis value}, Script.Course body.run heard millis (.done (.ok value)) →
    ∃ log, Script.exchanges heard = some log

/-- The end of a service that runs a transaction: its result tells about COMMIT, and a value is that of
the script. -/
def Accounted (body : Script α) (past : List Event) (result : Except Failure α) : Prop :=
  Tells Failure.commitFailed past result ∧ ∀ value, result = .ok value →
    ∃ past' answer, past = past' ++ [⟨.send .commit, .ok answer⟩, ⟨.release false, ()⟩] ∧
      Ready body value past'

/-- As long as there was an answer to everything, the open transaction holds what was answered, unless
its connection is lost. -/
def Tallies (past : List Event) (standing : Standing) : Prop :=
  ∀ log, transcript past = some log →
    (∃ draft, standing = .active draft ∧ draft.exchanges = log) ∨ ∃ held, standing = .lost held

/-- Whether a draft is what the script had done when COMMIT was asked for. -/
def Fulfils (body : Script α) (past : List Event) (draft : Draft) : Prop :=
  ∃ past' outcome value, past' ++ [⟨.send .commit, outcome⟩] <+: past ∧ Ready body value past' ∧
    Script.exchanges (heard past') = some draft.exchanges

/-- What has become of the COMMIT of a session: the drafts that took effect by it are none or one. -/
inductive Settled (body : Script α) (past : List Event) (standing : Standing) : List Draft → Prop
  | before : Uncommitted past → ¬standing.IsInDoubt → Settled body past standing []
  | doubtful {fault draft} : commits past = [.error fault] → standing = .inDoubt draft →
      Fulfils body past draft → Settled body past standing []
  | dropped {fault} : commits past = [.error fault] → ¬standing.IsInDoubt → Settled body past standing []
  | applied {outcome draft} : commits past = [outcome] → ¬standing.IsInDoubt →
      Fulfils body past draft → Settled body past standing [draft]

structure Session.Sound (body : Script α) (session : Session α) (drafts : List Draft) : Prop where
  keeps : session.rest.Keeps (AskedInOrder body) (Accounted body) session.past
  tallies : Tallies session.past session.standing
  settled : Settled body session.past session.standing drafts

theorem Service.Uncommitted.unique {past before before' : List Event}
    {outcome outcome' : Except StorageFault Answer} (h : Uncommitted before) (h' : Uncommitted before')
    (hpast : before ++ [⟨.send .commit, outcome⟩] <+: past)
    (hpast' : before' ++ [⟨.send .commit, outcome'⟩] <+: past) : before = before' := by
  -- A longer beginning would contain the COMMIT that ends the shorter one.
  have length_le : ∀ {first second : List Event} {o o' : Except StorageFault Answer}, Uncommitted second →
      first ++ [⟨.send .commit, o⟩] <+: past → second ++ [⟨.send .commit, o'⟩] <+: past →
      second.length ≤ first.length := by
    intro first second o o' hsecond hfirst hpast
    by_contra hlt
    have hwithin : first ++ [⟨.send .commit, o⟩] <+: second :=
      List.prefix_of_prefix_length_le hfirst ((List.prefix_append _ _).trans hpast) (by simp; omega)
    exact hsecond ⟨.send .commit, o⟩ (hwithin.subset (by simp)) rfl
  have hlength := Nat.le_antisymm (length_le h hpast' hpast) (length_le h' hpast hpast')
  exact (List.prefix_of_prefix_length_le ((List.prefix_append _ _).trans hpast)
    ((List.prefix_append _ _).trans hpast') (Nat.le_of_eq hlength)).eq_of_length hlength

theorem Fulfils.append {body : Script α} {past : List Event} {draft : Draft} (h : Fulfils body past draft)
    (later : List Event) : Fulfils body (past ++ later) draft := by
  obtain ⟨past', outcome, value, hprefix, hready, hexchanges⟩ := h
  exact ⟨past', outcome, value, hprefix.trans (List.prefix_append _ _), hready, hexchanges⟩

namespace Standing

theorem Spoils.isInDoubt {standing standing' : Standing} (h : standing.Spoils standing')
    (hdoubt : standing'.IsInDoubt) : standing' = standing := by
  obtain ⟨draft, rfl⟩ := hdoubt
  cases h
  rfl

theorem Spoils.held {standing standing' : Standing} (h : standing.Spoils standing') :
    standing'.held = standing.held := by
  cases h <;> rfl

end Standing

variable {db : Database} {taken : Key → Prop}

/-- A request without an answer that carries it out ends the tally. -/
theorem Tallies.of_none {past : List Event} {standing : Standing} (h : transcript past = none) :
    Tallies past standing := fun _ hlog => by
  rw [h] at hlog
  cases hlog

theorem Tallies.answers {past : List Event} {standing standing' : Standing} {action : Service.Action}
    {answer : action.Answer} {committed? : Option Draft} (h : Tallies past standing)
    (hanswers : Answers db taken action standing answer standing' committed?) :
    Tallies (past ++ [⟨action, answer⟩]) standing' := by
  cases hanswers with
  | quiet _ hquiet =>
      intro log hlog
      rw [Service.transcript_append_singleton] at hlog
      refine h log ?_
      cases action with
      | checkout => cases hlog
      | release inTransaction => cases hlog
      | send command => exact hquiet.elim
      | sendWithin statement patience => exact hquiet.elim
      | clock => exact hlog
      | announce hook user => exact hlog
      | salt => exact hlog
      | codeDraws => exact hlog
      | deliver message => exact hlog
  | begun answer =>
      intro log hlog
      rw [Service.transcript_append_singleton] at hlog
      cases hlog
      exact .inl ⟨[], rfl, rfl⟩
  | limited answer =>
      intro log hlog
      rw [Service.transcript_append_singleton] at hlog
      exact h log hlog
  | executed after hexecute hfree =>
      intro log hlog
      rw [Service.transcript_append_singleton, Service.record, Option.map_eq_some_iff] at hlog
      obtain ⟨earlier, hearlier, rfl⟩ := hlog
      rcases h earlier hearlier with ⟨draft, heq, hexchanges⟩ | ⟨held, heq⟩
      · cases heq
        exact .inl ⟨_, rfl, by rw [← hexchanges]; simp [Draft.exchanges]⟩
      · cases heq
  | unheard => exact .of_none (Service.transcript_append_singleton _ _)
  | failed => exact .of_none (Service.transcript_append_singleton _ _)
  | overdue => exact .of_none (Service.transcript_append_singleton _ _)
  | committed => exact .of_none (Service.transcript_append_singleton _ _)
  | uncertain => exact .of_none (Service.transcript_append_singleton _ _)
  | void => exact .of_none (Service.transcript_append_singleton _ _)
  | undone => exact .of_none (Service.transcript_append_singleton _ _)
  | @refused command => 
      refine .of_none ((Service.transcript_append_singleton _ _).trans ?_)
      cases command <;> rfl

theorem Tallies.drifts {past : List Event} {standing standing' : Standing} {committed? : Option Draft}
    (h : Tallies past standing) (hdrifts : Drifts taken standing standing' committed?) :
    Tallies past standing' := by
  intro log hlog
  cases hdrifts with
  | lost => exact .inr ⟨_, rfl⟩
  | noticed => exact .inr ⟨_, rfl⟩
  | late => rcases h log hlog with ⟨_, heq, _⟩ | ⟨_, heq⟩ <;> cases heq
  | applied => rcases h log hlog with ⟨_, heq, _⟩ | ⟨_, heq⟩ <;> cases heq
  | dropped => rcases h log hlog with ⟨_, heq, _⟩ | ⟨_, heq⟩ <;> cases heq

/-- Nothing but COMMIT makes changes take effect or leaves them in doubt. -/
theorem Answers.of_ne_commit {standing standing' : Standing} {action : Service.Action}
    {answer : action.Answer} {committed? : Option Draft} (hne : action ≠ .send .commit)
    (h : Answers db taken action standing answer standing' committed?) :
    committed? = none ∧ (standing'.IsInDoubt → standing' = standing) := by
  cases h with
  | quiet => exact ⟨rfl, fun _ => rfl⟩
  | begun => exact ⟨rfl, nofun⟩
  | limited => exact ⟨rfl, fun _ => rfl⟩
  | executed => exact ⟨rfl, nofun⟩
  | unheard => exact ⟨rfl, nofun⟩
  | failed _ _ hspoils => exact ⟨rfl, hspoils.isInDoubt⟩
  | overdue hspoils => exact ⟨rfl, hspoils.isInDoubt⟩
  | committed => exact absurd rfl hne
  | uncertain => exact absurd rfl hne
  | void => exact absurd rfl hne
  | undone => exact ⟨rfl, nofun⟩
  | refused _ _ hspoils => exact ⟨rfl, hspoils.isInDoubt⟩

theorem Settled.of_ne_commit {body : Script α} {past : List Event} {standing standing' : Standing}
    {drafts : List Draft} {e : Event} (hne : e.1 ≠ .send .commit) (h : Settled body past standing drafts)
    (hdoubt : standing'.IsInDoubt → standing' = standing) :
    Settled body (past ++ [e]) standing' drafts := by
  have hcommits := @Service.commits_append_singleton past _ hne
  cases h with
  | before hpast hstanding =>
      exact .before (hpast.append_singleton hne) fun h => hstanding (hdoubt h ▸ h)
  | doubtful hpast hstanding hfulfils =>
      by_cases h : standing'.IsInDoubt
      · exact .doubtful (hcommits.trans hpast) ((hdoubt h).trans hstanding) (hfulfils.append _)
      · exact .dropped (hcommits.trans hpast) h
  | dropped hpast hstanding => exact .dropped (hcommits.trans hpast) fun h => hstanding (hdoubt h ▸ h)
  | applied hpast hstanding hfulfils =>
      exact .applied (hcommits.trans hpast) (fun h => hstanding (hdoubt h ▸ h)) (hfulfils.append _)

theorem Settled.of_uncommitted {body : Script α} {past : List Event} {standing : Standing}
    {drafts : List Draft} (hpast : Uncommitted past) (h : Settled body past standing drafts) :
    drafts = [] ∧ ¬standing.IsInDoubt := by
  have hcommits := hpast.commits_eq
  cases h with
  | before _ hstanding => exact ⟨rfl, hstanding⟩
  | doubtful h => cases h.symm.trans hcommits
  | dropped h => cases h.symm.trans hcommits
  | applied h => cases h.symm.trans hcommits

/-- When COMMIT is asked for, the open transaction holds what the script has done. -/
theorem Ready.fulfils {body : Script α} (hbody : body.Reliable) {past : List Event} {value : α}
    (hready : Ready body value past) {standing : Standing} (htallies : Tallies past standing)
    (outcome : Except StorageFault Answer) :
    (∃ draft, standing = .active draft ∧ Fulfils body (past ++ [⟨.send .commit, outcome⟩]) draft) ∨
      ∃ held, standing = .lost held := by
  obtain ⟨millis, hcourse⟩ := hready.course
  obtain ⟨log, hlog⟩ := hbody.answered hcourse
  rcases htallies log (hready.transcript_eq.trans hlog) with ⟨draft, rfl, rfl⟩ | hlost
  · exact .inl ⟨draft, rfl, past, outcome, value, List.prefix_rfl, hready, hlog⟩
  · exact .inr hlost

theorem Settled.answers {body : Script α} (hbody : body.Reliable) {past : List Event}
    {standing standing' : Standing} {drafts : List Draft} {action : Service.Action}
    {answer : action.Answer} {committed? : Option Draft} (h : Settled body past standing drafts)
    (hasked : AskedInOrder body past action) (htallies : Tallies past standing)
    (hanswers : Answers db taken action standing answer standing' committed?) :
    Settled body (past ++ [⟨action, answer⟩]) standing' (drafts ++ committed?.toList) := by
  by_cases hcommit : action = .send .commit
  · subst hcommit
    obtain ⟨value, hready⟩ := hasked
    obtain ⟨rfl, hstanding⟩ := h.of_uncommitted hready.uncommitted
    have hcommits : commits (past ++ [⟨.send .commit, answer⟩]) = [answer] := by
      rw [Service.commits_append, hready.uncommitted.commits_eq]
      rfl
    have hfulfils := hready.fulfils hbody htallies answer
    cases hanswers with
    | quiet _ hquiet => exact hquiet.elim
    | committed =>
        rcases hfulfils with ⟨draft, heq, hfulfils⟩ | ⟨held, heq⟩
        · cases heq
          exact .applied hcommits nofun hfulfils
        · cases heq
    | uncertain =>
        rcases hfulfils with ⟨draft, heq, hfulfils⟩ | ⟨held, heq⟩
        · cases heq
          exact .doubtful hcommits rfl hfulfils
        · cases heq
    | void => rcases hfulfils with ⟨_, heq, _⟩ | ⟨_, heq⟩ <;> cases heq
    | refused _ _ hspoils =>
        exact .dropped hcommits fun hdoubt => hstanding (hspoils.isInDoubt hdoubt ▸ hdoubt)
  · obtain ⟨rfl, hdoubt⟩ := hanswers.of_ne_commit hcommit
    rw [Option.toList_none, List.append_nil]
    exact h.of_ne_commit hcommit hdoubt

theorem Settled.of_not_isInDoubt {body : Script α} {past : List Event} {standing standing' : Standing}
    {drafts : List Draft} (h : Settled body past standing drafts) (hdoubt : ¬standing'.IsInDoubt) :
    Settled body past standing' drafts := by
  cases h with
  | before hpast => exact .before hpast hdoubt
  | doubtful hpast => exact .dropped hpast hdoubt
  | dropped hpast => exact .dropped hpast hdoubt
  | applied hpast _ hfulfils => exact .applied hpast hdoubt hfulfils

theorem Settled.drifts {body : Script α} {past : List Event} {standing standing' : Standing}
    {drafts : List Draft} {committed? : Option Draft} (h : Settled body past standing drafts)
    (hdrifts : Drifts taken standing standing' committed?) :
    Settled body past standing' (drafts ++ committed?.toList) := by
  cases hdrifts with
  | lost => exact (List.append_nil drafts).symm ▸ h.of_not_isInDoubt nofun
  | noticed => exact (List.append_nil drafts).symm ▸ h.of_not_isInDoubt nofun
  | late => exact (List.append_nil drafts).symm ▸ h.of_not_isInDoubt nofun
  | dropped => exact (List.append_nil drafts).symm ▸ h.of_not_isInDoubt nofun
  | @applied draft =>
      have hdoubt : (Standing.inDoubt draft).IsInDoubt := ⟨draft, rfl⟩
      cases h with
      | before _ hstanding => exact absurd hdoubt hstanding
      | doubtful hpast heq hfulfils =>
          cases heq
          exact .applied hpast nofun hfulfils
      | dropped _ hstanding => exact absurd hdoubt hstanding
      | applied _ hstanding => exact absurd hdoubt hstanding

namespace Session.Sound

theorem answers {body : Script α} (hbody : body.Reliable) {session : Session α} {drafts : List Draft}
    {action : Service.Action} {next : action.Answer → Service (Except Failure α)}
    {answer : action.Answer} {standing : Standing} {committed? : Option Draft}
    (h : session.Sound body drafts) (hrest : session.rest = .ask action next)
    (hanswers : Answers db taken action session.standing answer standing committed?) :
    Session.Sound body ⟨next answer, session.past ++ [⟨action, answer⟩], standing⟩
      (drafts ++ committed?.toList) := by
  have hkeeps := h.keeps
  rw [hrest] at hkeeps
  exact ⟨hkeeps.2 answer, h.tallies.answers hanswers,
    h.settled.answers hbody hkeeps.1 h.tallies hanswers⟩

theorem drifts {body : Script α} {session : Session α} {drafts : List Draft} {standing : Standing}
    {committed? : Option Draft} (h : session.Sound body drafts)
    (hdrifts : Drifts taken session.standing standing committed?) :
    Session.Sound body { session with standing } (drafts ++ committed?.toList) :=
  ⟨h.keeps, h.tallies.drifts hdrifts, h.settled.drifts hdrifts⟩

theorem start {body : Script α} {service : Service (Except Failure α)}
    (h : service.Keeps (AskedInOrder body) (Accounted body) []) :
    Session.Sound body { rest := service } [] where
  keeps := h
  tallies := .of_none rfl
  settled := .before (fun _ hmem => absurd hmem List.not_mem_nil) nofun

/-- A value comes with one draft that took effect: what the script had done. -/
theorem ok {body : Script α} {session : Session α} {drafts : List Draft} {value : α}
    (h : session.Sound body drafts) (hrest : session.rest = .done (.ok value)) :
    ∃ draft past', drafts = [draft] ∧ past' <+: session.past ∧ Ready body value past' ∧
      Script.exchanges (heard past') = some draft.exchanges := by
  have hkeeps := h.keeps
  rw [hrest] at hkeeps
  obtain ⟨⟨answer, hcommits⟩, hvalue⟩ := hkeeps
  obtain ⟨past', answer', hpast, hready⟩ := hvalue value rfl
  have hprefix : past' ++ [⟨.send .commit, .ok answer'⟩] <+: session.past := by
    rw [hpast]
    exact (List.prefix_append_right_inj past').mpr ⟨[⟨.release false, ()⟩], rfl⟩
  cases h.settled with
  | before hbefore => cases hcommits.symm.trans hbefore.commits_eq
  | doubtful hfault => cases hcommits.symm.trans hfault
  | dropped hfault => cases hcommits.symm.trans hfault
  | @applied _ draft _ _ hfulfils =>
      obtain ⟨past'', _, _, hprefix'', hready'', hexchanges⟩ := hfulfils
      obtain rfl := hready.uncommitted.unique hready''.uncommitted hprefix hprefix''
      exact ⟨draft, past', rfl, (List.prefix_append _ _).trans hprefix, hready, hexchanges⟩

/-- Any failure but that of COMMIT comes without a draft that took effect. -/
theorem error {body : Script α} {session : Session α} {drafts : List Draft} {failure : Failure}
    (h : session.Sound body drafts) (hrest : session.rest = .done (.error failure))
    (hfailure : ∀ fault, failure ≠ .commitFailed fault) : drafts = [] := by
  have hkeeps := h.keeps
  rw [hrest] at hkeeps
  obtain ⟨htells, _⟩ := hkeeps
  have hcommits : commits session.past = [] := by
    rcases htells with ⟨fault, heq, _⟩ | ⟨_, hcommits⟩
    · exact absurd heq (hfailure fault)
    · exact hcommits
  cases h.settled with
  | before => rfl
  | doubtful => rfl
  | dropped => rfl
  | applied hpast => cases hcommits.symm.trans hpast

theorem length_le_one {body : Script α} {session : Session α} {drafts : List Draft}
    (h : session.Sound body drafts) : drafts.length ≤ 1 := by
  cases h.settled with
  | before => exact Nat.zero_le 1
  | doubtful => exact Nat.zero_le 1
  | dropped => exact Nat.zero_le 1
  | applied => exact Nat.le_refl 1

theorem fulfils {body : Script α} {session : Session α} {drafts : List Draft} {draft : Draft}
    (h : session.Sound body drafts) (hdraft : draft ∈ drafts) : Fulfils body session.past draft := by
  cases h.settled with
  | before => cases hdraft
  | doubtful => cases hdraft
  | dropped => cases hdraft
  | applied _ _ hfulfils =>
      rw [List.mem_singleton] at hdraft
      exact hdraft ▸ hfulfils

/-- A draft that took effect is what the script had done for a value, and that is the value of the
session if it has one. -/
theorem explains {body : Script α} {session : Session α} {drafts : List Draft} {draft : Draft}
    (h : session.Sound body drafts) (hdraft : draft ∈ drafts) :
    ∃ past' value, past' <+: session.past ∧ Ready body value past' ∧
      Script.exchanges (heard past') = some draft.exchanges ∧
      ∀ other, session.rest = .done (.ok other) → other = value := by
  by_cases hended : ∃ value, session.rest = .done (.ok value)
  · obtain ⟨value, hrest⟩ := hended
    obtain ⟨only, past', hdrafts, hprefix, hready, hexchanges⟩ := h.ok hrest
    rw [hdrafts, List.mem_singleton] at hdraft
    subst hdraft
    refine ⟨past', value, hprefix, hready, hexchanges, fun other hother => ?_⟩
    rw [hrest] at hother
    cases hother
    rfl
  · obtain ⟨past', _, value, hprefix, hready, hexchanges⟩ := h.fulfils hdraft
    exact ⟨past', value, (List.prefix_append _ _).trans hprefix, hready, hexchanges,
      fun other hother => absurd ⟨other, hother⟩ hended⟩

end Session.Sound

/-- A transaction, on its own, ends as a session should. -/
theorem atomically_accounted (limit : Nat) {body : Script α} (hbody : body.Reliable) :
    (atomically limit body).Keeps (AskedInOrder body) (Accounted body) [] := by
  have hkeeps := (atomically_keeps limit body).and (atomically_tells limit hbody.decided)
  refine hkeeps.mono (fun _ _ h => h.1) fun past result h => ⟨h.2, fun value hvalue => ?_⟩
  obtain ⟨past', answer, hpast, hready⟩ : EndedTruly body past (.ok value) := hvalue ▸ h.1
  exact ⟨past', answer, hpast, hready⟩

end Passbook
