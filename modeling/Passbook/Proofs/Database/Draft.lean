import Passbook.Proofs.Database.Execute

/-!
# Drafts

A draft is what an open transaction has done so far. Nobody else sees it; it reads the tables that
others have committed, with its own changes on top. While it is open others may commit. What it has
done would then be done again in the same way, as long as they leave the rows alone that it holds and
delete nothing, and as long as its statements are steady: they depend on the row that they hold, and on
other rows only through their being there.
-/
namespace Passbook

/-- A statement that was carried out, with its answer and what it left behind. -/
structure Deed where
  statement : Statement
  answer : Answer
  effect : Effect

abbrev Draft := List Deed

def Draft.exchanges (draft : Draft) : List (Statement × Answer) :=
  draft.map fun deed => (deed.statement, deed.answer)

def Draft.keys (draft : Draft) : List Key := draft.filterMap (·.effect.key?)

theorem Draft.mem_keys {draft : Draft} {key : Key} :
    key ∈ draft.keys ↔ ∃ deed ∈ draft, deed.effect.key? = some key := List.mem_filterMap

namespace Database

def after (db : Database) (draft : Draft) : Database :=
  draft.foldl (fun db deed => deed.effect.apply db) db

@[simp] theorem after_nil (db : Database) : db.after [] = db := rfl

@[simp] theorem after_cons (db : Database) (deed : Deed) (rest : Draft) :
    db.after (deed :: rest) = (deed.effect.apply db).after rest := rfl

@[simp] theorem after_append (db : Database) (draft draft' : Draft) :
    db.after (draft ++ draft') = (db.after draft).after draft' := List.foldl_append

/-- Whether every row that is there stays there, and the rows that are held stay as they are. -/
def Keeps (held : List Key) (db db' : Database) : Prop :=
  (∀ key, (db.find key).isSome → (db'.find key).isSome) ∧ ∀ key ∈ held, db'.find key = db.find key

theorem find_apply_of_ne {effect : Effect} {key : Key} (h : effect.key? ≠ some key) (db : Database) :
    (effect.apply db).find key = db.find key := by
  cases effect with
  | none => rfl
  | hold key' => rfl
  | put record =>
      have hne : key ≠ record.key := fun heq => h (by rw [heq, Effect.key?])
      simp only [Effect.apply, find_put, if_neg hne]
  | remove key' =>
      have hne : key ≠ key' := fun heq => h (by rw [heq, Effect.key?])
      simp only [Effect.apply, find_remove, if_neg hne]

/-- Two databases with the same row, or with a row each, are still so after the same change. -/
theorem Keeps.apply {held : List Key} {db db' : Database} (h : Keeps held db db') (effect : Effect) :
    Keeps held (effect.apply db) (effect.apply db') := by
  obtain ⟨hthere, hsame⟩ := h
  cases effect with
  | none => exact ⟨hthere, hsame⟩
  | hold key => exact ⟨hthere, hsame⟩
  | put record =>
      constructor
      · intro key
        simp only [Effect.apply, find_put]
        split
        · exact id
        · exact hthere key
      · intro key hkey
        simp only [Effect.apply, find_put, hsame key hkey]
  | remove key' =>
      constructor
      · intro key
        simp only [Effect.apply, find_remove]
        split
        · exact id
        · exact hthere key
      · intro key hkey
        simp only [Effect.apply, find_remove, hsame key hkey]

theorem Keeps.mono {held held' : List Key} {db db' : Database} (h : Keeps held db db')
    (hheld : held' ⊆ held) : Keeps held' db db' :=
  ⟨h.1, fun key hkey => h.2 key (hheld hkey)⟩

theorem isSome_find_apply {effect : Effect} (h : ∀ key, effect ≠ .remove key) {db : Database} {key : Key}
    (hfound : (db.find key).isSome) : ((effect.apply db).find key).isSome := by
  cases effect with
  | none => exact hfound
  | hold key' => exact hfound
  | put record =>
      simp only [Effect.apply, find_put]
      split
      · rfl
      · exact hfound
  | remove key' => exact absurd rfl (h key')

/-- A draft that deletes nothing keeps what is held by others. -/
theorem keeps_after {draft : Draft} {held : List Key}
    (hadds : ∀ deed ∈ draft, ∀ key, deed.effect ≠ .remove key)
    (hoff : ∀ key ∈ draft.keys, key ∉ held) (db : Database) : Keeps held db (db.after draft) := by
  induction draft generalizing db with
  | nil => exact ⟨fun _ => id, fun _ _ => rfl⟩
  | cons deed rest ih =>
      obtain ⟨hthere, hsame⟩ := ih (fun deed hdeed => hadds deed (List.mem_cons_of_mem _ hdeed))
        (fun key hkey => hoff key (by
          obtain ⟨deed, hdeed, heq⟩ := Draft.mem_keys.mp hkey
          exact Draft.mem_keys.mpr ⟨deed, List.mem_cons_of_mem _ hdeed, heq⟩)) (deed.effect.apply db)
      refine ⟨fun key hkey => hthere key ?_, fun key hkey => (hsame key hkey).trans ?_⟩
      · exact isSome_find_apply (hadds deed List.mem_cons_self) hkey
      · refine find_apply_of_ne (fun heq => ?_) db
        exact hoff key (Draft.mem_keys.mpr ⟨deed, List.mem_cons_self, heq⟩) hkey

end Database

open Database (Keeps)

/-- Whether a statement depends on the row that it holds, and on other rows only through their being
there, and deletes nothing. -/
structure Statement.Steady (statement : Statement) : Prop where
  adds : ∀ {db : Database} {stamp answer effect}, db.execute stamp statement = .ok (answer, effect) →
    ∀ key, effect ≠ .remove key
  finds : ∀ {db : Database} {stamp answer effect}, db.execute stamp statement = .ok (answer, effect) →
    answer.rows = [] → effect = .none
  carries : ∀ {db db' : Database} {stamp answer effect},
    db.execute stamp statement = .ok (answer, effect) → answer.rows ≠ [] →
      Keeps effect.key?.toList db db' → db'.execute stamp statement = .ok (answer, effect)

/-- Whether a statement, carried out on these tables, does what it is said to have done. What has found
nothing need not be repeatable. -/
def Deed.Holds (db : Database) (deed : Deed) : Prop :=
  deed.answer.rows = [] ∧ deed.effect = .none ∨
    ∃ stamp, db.execute stamp deed.statement = .ok (deed.answer, deed.effect)

/-- Whether a draft can be carried out, statement by statement, from these tables on. -/
def Draft.Replays (db : Database) : Draft → Prop
  | [] => True
  | deed :: rest => deed.Holds db ∧ Draft.Replays (deed.effect.apply db) rest

namespace Draft

theorem replays_append {db : Database} {draft draft' : Draft} :
    Replays db (draft ++ draft') ↔ Replays db draft ∧ Replays (db.after draft) draft' := by
  induction draft generalizing db with
  | nil => simp [Replays]
  | cons deed rest ih =>
      simp only [List.cons_append, Replays, ih, Database.after_cons, and_assoc]

/-- A draft of steady statements can still be carried out after others have committed. -/
theorem Replays.of_keeps {db db' : Database} {draft : Draft} (h : Replays db draft)
    (hsteady : ∀ deed ∈ draft, deed.statement.Steady) (hkeeps : Keeps draft.keys db db') :
    Replays db' draft := by
  induction draft generalizing db db' with
  | nil => trivial
  | cons deed rest ih =>
      obtain ⟨hdeed, hrest⟩ := h
      have hkeys : ∀ key, deed.effect.key? = some key → key ∈ keys (deed :: rest) := fun key hkey =>
        mem_keys.mpr ⟨deed, List.mem_cons_self, hkey⟩
      constructor
      · by_cases hrows : deed.answer.rows = []
        · rcases hdeed with hblank | ⟨stamp, hexecute⟩
          · exact .inl hblank
          · exact .inl ⟨hrows, (hsteady deed List.mem_cons_self).finds hexecute hrows⟩
        · rcases hdeed with hblank | ⟨stamp, hexecute⟩
          · exact absurd hblank.1 hrows
          · refine .inr ⟨stamp, (hsteady deed List.mem_cons_self).carries hexecute hrows ?_⟩
            exact hkeeps.mono fun key hkey => hkeys key (Option.mem_toList.mp hkey)
      · refine ih hrest (fun deed hdeed => hsteady deed (List.mem_cons_of_mem _ hdeed)) ?_
        refine (hkeeps.apply deed.effect).mono fun key hkey => ?_
        obtain ⟨other, hother, heq⟩ := mem_keys.mp hkey
        exact mem_keys.mpr ⟨other, List.mem_cons_of_mem _ hother, heq⟩

theorem Replays.uncons {db : Database} {draft : Draft} {statement : Statement} {answer : Answer}
    {log : List (Statement × Answer)} (h : Replays db draft)
    (hlog : draft.exchanges = (statement, answer) :: log) (hrows : answer.rows ≠ []) :
    ∃ stamp effect rest, db.execute stamp statement = .ok (answer, effect) ∧
      draft = ⟨statement, answer, effect⟩ :: rest ∧ exchanges rest = log ∧
      Replays (effect.apply db) rest := by
  cases draft with
  | nil => cases hlog
  | cons deed rest =>
      obtain ⟨statement', answer', effect⟩ := deed
      obtain ⟨hdeed, hrest⟩ := h
      cases hlog
      rcases hdeed with hblank | ⟨stamp, hexecute⟩
      · exact absurd hblank.1 hrows
      · exact ⟨stamp, effect, rest, hexecute, rfl, rfl, hrest⟩

theorem eq_nil_of_exchanges {draft : Draft} (h : draft.exchanges = []) : draft = [] :=
  List.map_eq_nil_iff.mp h

end Draft

theorem Answer.rows_ne_nil {α : Type} {read : Row → Except StorageFault α} {answer : Answer} {value : α}
    (h : answer.one read = .ok value) : answer.rows ≠ [] := by
  intro hrows
  rw [Answer.one, hrows] at h
  cases h

end Passbook
