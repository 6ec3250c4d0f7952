import Passbook.Settings.EnvFile

/-!
# What an environment file defines

The definitions of a file are those of its lines up to the first that is wrong. A reference in a value
stands for what the environment has under the name, or else for what the file has first given it further
up. Loading a file completes the environment by its definitions: a name that is set keeps its value, and of
several definitions of another name the first counts. This fails if and only if a definition that counts
has a null character in its value.
-/
namespace Passbook

theorem lookup_cons_ite {κ β : Type} [BEq κ] [LawfulBEq κ] [DecidableEq κ] (key : κ) (value : β)
    (rest : List (κ × β)) (other : κ) :
    ((key, value) :: rest).lookup other = if other = key then some value else rest.lookup other := by
  rw [List.lookup_cons]
  split
  · next h => rw [if_pos (beq_iff_eq.mp h)]
  · next h => rw [if_neg (beq_eq_false_iff_ne.mp h)]

namespace Environment

theorem lookup_append_singleton (environment : Environment) (name value other : List Char) :
    (environment ++ [(name, value)]).lookup other =
      (environment.lookup other).or (if other = name then some value else none) := by
  rw [List.lookup_append, lookup_cons_ite]
  rfl

theorem set_of_new {environment : Environment} {name : List Char} (h : environment.lookup name = none)
    (value : List Char) : environment.set name value = environment ++ [(name, value)] := by
  induction environment with
  | nil => rfl
  | cons entry rest ih =>
      rw [lookup_cons_ite] at h
      split at h
      · cases h
      · next hne => rw [set, if_neg (Ne.symm hne), ih h, List.cons_append]

theorem lookup_set (environment : Environment) (name value other : List Char) :
    (environment.set name value).lookup other = if other = name then some value else environment.lookup other := by
  induction environment with
  | nil => exact lookup_cons_ite name value [] other
  | cons entry rest ih =>
      rw [set]
      split
      · next hfirst =>
        rw [lookup_cons_ite, lookup_cons_ite, ← hfirst]
        split <;> rfl
      · next hfirst =>
        rw [lookup_cons_ite, lookup_cons_ite, ih]
        split
        · next heq => rw [if_neg (heq ▸ hfirst)]
        · rfl

theorem lookup_eq_none {environment : Environment} {name : List Char} :
    environment.lookup name = none ↔ name ∉ environment.map Prod.fst := by
  rw [List.lookup_eq_none_iff, List.mem_map]
  constructor
  · rintro h ⟨entry, hentry, rfl⟩
    simpa using h entry hentry
  · intro h entry hentry
    exact bne_iff_ne.mpr fun heq => h ⟨entry, hentry, heq.symm⟩

end Environment

namespace EnvFile

/-- What a reference stands for below some definitions of a file. -/
def referred (environment above : Environment) (name : List Char) : List Char :=
  ((environment ++ above).lookup name).getD []

/-- The definitions of lines below others, up to the first line that is wrong. -/
def definitionsBelow (environment above : Environment) : List (Option (List Char)) → Environment
  | [] => []
  | none :: _ => []
  | some line :: rest =>
      match readLine (referred environment above) line with
      | .wrong => []
      | .nothing => definitionsBelow environment above rest
      | .definition name value =>
          (name, value) :: definitionsBelow environment (above ++ [(name, value)]) rest

/-- The definitions of a file in their order, up to its first line that is wrong. -/
def definitions (environment : Environment) (text : List Char) : Environment :=
  definitionsBelow environment [] (lines text)

/-- Whether variables can hold all the values that definitions give to names that are not set, where the
first definition of a name counts. -/
def Settable (environment definitions : Environment) : Prop :=
  ∀ name value, environment.lookup name = none → definitions.lookup name = some value → '\x00' ∉ value

variable {environment : Environment}

theorem settable_nil : Settable environment [] := fun _ _ _ => (nomatch ·)

theorem settable_singleton {name value : List Char} :
    Settable environment [(name, value)] ↔ (environment.lookup name = none → '\x00' ∉ value) := by
  simp only [Settable, lookup_cons_ite]
  constructor
  · intro h hnew
    exact h name value hnew (if_pos rfl)
  · intro h other text hother htext
    split at htext
    · next heq =>
      cases htext
      exact h (heq ▸ hother)
    · cases htext

/-- Definitions can be set if those in front can and then, with these set, those behind. -/
theorem settable_append {first second : Environment} :
    Settable environment (first ++ second) ↔
      Settable environment first ∧ Settable (environment ++ first) second := by
  simp only [Settable, List.lookup_append, Option.or_eq_none_iff, Option.or_eq_some_iff]
  constructor
  · intro h
    exact ⟨fun name value hnew hfirst => h name value hnew (.inl hfirst),
      fun name value hnew hsecond => h name value hnew.1 (.inr ⟨hnew.2, hsecond⟩)⟩
  · rintro ⟨hfirst, hsecond⟩ name value hnew (hvalue | ⟨hnone, hvalue⟩)
    · exact hfirst name value hnew hvalue
    · exact hsecond name value ⟨hnew, hnone⟩ hvalue

namespace Loaded

/-- What has been loaded is the environment with the definitions above. All that the file defined is in the
environment, so the values of the file itself are never asked for anything else. -/
structure Completes (loaded : Loaded) (environment above : Environment) : Prop where
  names : (loaded.environment.map Prod.fst).Nodup
  lookup : ∀ name, loaded.environment.lookup name = (environment ++ above).lookup name
  defined : ∀ name, loaded.environment.lookup name = none → loaded.defined.lookup name = none

variable {loaded : Loaded} {environment above : Environment}

theorem Completes.value_eq (h : loaded.Completes environment above) :
    loaded.value = referred environment above := by
  funext name
  rw [value, referred, ← h.lookup]
  cases hname : loaded.environment.lookup name with
  | some value => rfl
  | none => rw [h.defined name hname]

/-- How it ends that definitions below others are taken in: what was loaded is completed by them, unless
one of them would have to be set and cannot be. -/
def Ends (environment above definitions : Environment) : Except Unsettable Loaded → Prop
  | .ok after => Settable (environment ++ above) definitions ∧ after.Completes environment (above ++ definitions)
  | .error _ => ¬Settable (environment ++ above) definitions

theorem Completes.ends (h : loaded.Completes environment above) : Ends environment above [] (.ok loaded) :=
  ⟨settable_nil, by rwa [List.append_nil]⟩

theorem Ends.append {first second : Environment} {result : Except Unsettable Loaded}
    (hfirst : Settable (environment ++ above) first) (h : Ends environment (above ++ first) second result) :
    Ends environment above (first ++ second) result := by
  have hall : Settable (environment ++ above) (first ++ second) ↔
      Settable (environment ++ (above ++ first)) second := by
    rw [settable_append, and_iff_right hfirst, List.append_assoc]
  cases result with
  | error definition => exact mt hall.mp h
  | ok after => exact ⟨hall.mpr h.1, List.append_assoc above first second ▸ h.2⟩

theorem Completes.define_ends (h : loaded.Completes environment above) (name value : List Char) :
    Ends environment above [(name, value)] (loaded.define name value) := by
  have hlookup : ∀ other, (environment ++ (above ++ [(name, value)])).lookup other =
      (loaded.environment.lookup other).or (if other = name then some value else none) := fun other => by
    rw [← List.append_assoc, Environment.lookup_append_singleton, h.lookup]
  rw [Loaded.define]
  cases hname : loaded.environment.lookup name with
  | some old =>
      refine ⟨settable_singleton.mpr fun hnone => ?_, h.names, fun other => ?_, fun other hother => ?_⟩
      · rw [← h.lookup, hname] at hnone
        cases hnone
      · rw [hlookup]
        by_cases heq : other = name
        · rw [heq, hname]; rfl
        · rw [if_neg heq, Option.or_none]
      · have hne : other ≠ name := by
          rintro rfl
          exact nomatch hname.symm.trans hother
        rw [Environment.lookup_set, if_neg hne]
        exact h.defined other hother
  | none =>
      by_cases hnull : '\x00' ∈ value
      case pos =>
        rw [if_pos hnull]
        exact fun hsettable => settable_singleton.mp hsettable ((h.lookup name).symm.trans hname) hnull
      case neg =>
        rw [if_neg hnull, Environment.set_of_new hname]
        refine ⟨settable_singleton.mpr fun _ => hnull, ?_, fun other => ?_, fun other hother => ?_⟩
        · rw [List.map_append, List.nodup_append]
          refine ⟨h.names, List.pairwise_singleton _ _, fun old hold new hnew heq => ?_⟩
          obtain rfl := List.mem_singleton.mp hnew
          exact Environment.lookup_eq_none.mp hname (heq ▸ hold)
        · rw [hlookup, Environment.lookup_append_singleton]
        · rw [Environment.lookup_append_singleton, Option.or_eq_none_iff] at hother
          have hne : other ≠ name := fun heq => by simp [heq] at hother
          rw [Environment.lookup_set, if_neg hne]
          exact h.defined other hother.1

theorem Completes.addLines_ends (h : loaded.Completes environment above) (lines : List (Option (List Char))) :
    Ends environment above (definitionsBelow environment above lines) (loaded.addLines lines) := by
  induction lines generalizing loaded above with
  | nil => exact h.ends
  | cons line rest ih =>
      cases line with
      | none => exact h.ends
      | some line =>
          rw [Loaded.addLines, definitionsBelow, h.value_eq]
          cases readLine (referred environment above) line with
          | wrong => exact h.ends
          | nothing => exact ih h
          | definition name value =>
              have hdefine := h.define_ends name value
              dsimp only
              cases hafter : loaded.define name value with
              | error definition =>
                  rw [hafter] at hdefine
                  exact fun hall => hdefine (settable_append.mp hall).1
              | ok after =>
                  rw [hafter] at hdefine
                  exact .append hdefine.1 (ih hdefine.2)

end Loaded

/-- An environment is completed by the definitions of a file, unless one of them would have to be set and
cannot be. -/
theorem load_cases {environment : Environment} (hnames : (environment.map Prod.fst).Nodup) (text : List Char) :
    (Settable environment (definitions environment text) ∧
      ∃ after, load environment text = .ok after ∧ (after.map Prod.fst).Nodup ∧
        ∀ name, after.lookup name = (environment ++ definitions environment text).lookup name) ∨
    (¬Settable environment (definitions environment text) ∧
      ∃ definition, load environment text = .error definition) := by
  have hstart : Loaded.Completes ⟨environment, []⟩ environment [] :=
    ⟨hnames, fun name => by rw [List.append_nil], fun _ _ => rfl⟩
  have hends := hstart.addLines_ends (lines text)
  rw [load]
  cases hlines : Loaded.addLines ⟨environment, []⟩ (lines text) with
  | error definition =>
      rw [hlines, Loaded.Ends, List.append_nil] at hends
      exact .inr ⟨hends, definition, rfl⟩
  | ok loaded =>
      rw [hlines, Loaded.Ends, List.append_nil] at hends
      exact .inl ⟨hends.1, loaded.environment, rfl, hends.2.names, hends.2.lookup⟩

end EnvFile
end Passbook
