import Mathlib
import Passbook.Proofs.Settings.Definitions
import Passbook.Proofs.Text.Decimal
import Passbook.Settings

/-!
# Variables for settings

A variable is for a setting if its name is that of the setting in any case. It gives the setting its value:
its text as it stands, or the number that the text denotes if that fits. What is gathered from an
environment is for each setting the value of the one variable for it.
-/
namespace Passbook.Settings

/-- Whether a character is a small letter, its capital or, for a small k, the sign for Kelvin. -/
def IsCaseOf (c small : Char) : Prop :=
  c = small ∨ c = small.toUpper ∨ c = '\u212a' ∧ small = 'k'

instance (c small : Char) : Decidable (IsCaseOf c small) := inferInstanceAs (Decidable (_ ∨ _ ∨ _ ∧ _))

namespace Key

/-- Whether a variable of this name is for the setting: it has its name in any case. -/
def NamedBy (key : Key) (name : List Char) : Prop :=
  List.Forall₂ IsCaseOf name key.name.toList

instance (key : Key) (name : List Char) : Decidable (key.NamedBy name) :=
  inferInstanceAs (Decidable (List.Forall₂ _ _ _))

theorem mem_all (key : Key) : key ∈ all := by
  cases key <;> decide

theorem name_inj {key other : Key} (h : key.name.toList = other.name.toList) : key = other := by
  have hall : ∀ key ∈ all, ∀ other ∈ all, key.name.toList = other.name.toList → key = other := by decide +kernel
  exact hall key (mem_all key) other (mem_all other) h

theorem isCaseOf_lowered (c : Char) : IsCaseOf c (lowered c) := by
  by_cases hc : c.toNat < 128
  case pos =>
    have hall : ∀ n < 128, IsCaseOf (Char.ofNat n) (lowered (Char.ofNat n)) := by decide +kernel
    have hthis := hall c.toNat hc
    rwa [Char.ofNat_toNat] at hthis
  case neg =>
    -- Outside of ASCII only the sign for Kelvin is lowered.
    rw [lowered]
    split
    · next hkelvin => exact .inr (.inr ⟨Char.toNat_inj.mp hkelvin, rfl⟩)
    · have hlower : c.toLower = c := by
        rw [Char.toLower, dif_neg]
        rintro ⟨-, hle⟩
        exact hc (Nat.lt_of_le_of_lt (UInt32.le_iff_toNat_le.mp hle) (by decide))
      exact .inl hlower.symm

theorem lowered_eq_iff {key : Key} {small : Char} (hsmall : small ∈ key.name.toList) (c : Char) :
    lowered c = small ↔ IsCaseOf c small := by
  constructor
  · rintro rfl
    exact isCaseOf_lowered c
  · have hall : ∀ key ∈ all,
        key.name.toList.all (fun small => lowered small = small ∧ lowered small.toUpper = small) = true := by
      decide +kernel
    have hcases := List.all_eq_true.mp (hall key (mem_all key)) small hsmall
    obtain ⟨hlow, hupper⟩ := of_decide_eq_true hcases
    rintro (rfl | rfl | ⟨rfl, rfl⟩)
    · exact hlow
    · exact hupper
    · rfl

/-- A variable is for the setting that it is taken for. -/
theorem ofName?_eq_some {key : Key} {name : List Char} : ofName? name = some key ↔ key.NamedBy name := by
  have hcases : ∀ smalls : List Char, (∀ small ∈ smalls, ∀ c, lowered c = small ↔ IsCaseOf c small) →
      ∀ name, name.map lowered = smalls ↔ List.Forall₂ IsCaseOf name smalls := by
    intro smalls
    induction smalls with
    | nil => simp
    | cons small smalls ih =>
        intro hall name
        rw [List.forall_mem_cons] at hall
        cases name with
        | nil => simp
        | cons c name => rw [List.map_cons, List.cons_eq_cons, List.forall₂_cons, hall.1, ih hall.2]
  rw [NamedBy, ← hcases key.name.toList fun small => lowered_eq_iff, ofName?]
  constructor
  · intro h
    have hfound := List.find?_some h
    exact (beq_iff_eq.mp hfound).symm
  · intro h
    cases hfind : all.find? fun key => key.name.toList == name.map lowered with
    | none => exact absurd (beq_iff_eq.mpr h.symm) (List.find?_eq_none.mp hfind key (mem_all key))
    | some other =>
        have hfound := List.find?_some hfind
        rw [name_inj ((beq_iff_eq.mp hfound).trans h)]

theorem NamedBy.unique {key other : Key} {name : List Char} (h : key.NamedBy name) (h' : other.NamedBy name) :
    key = other :=
  Option.some.inj ((ofName?_eq_some.mpr h).symm.trans (ofName?_eq_some.mpr h'))

/-- How many bits the number of a setting has, if the setting is a number. -/
def bits? : Key → Option Nat
  | .serverPort => some 16
  | .maxConnections => some 32
  | .transactionLimit | .queueCapacity | .taskDelay => some 64
  | .databaseUrl | .verifyUrlBase | .relayUrl | .relaySecret => none

/-- Whether a text gives a setting a value: the text itself, or the number that it denotes if that fits. -/
inductive Takes (key : Key) (text : List Char) : Value → Prop
  | text : key.bits? = none → key.Takes text (.text text)
  | number {bits n : Nat} : key.bits? = some bits → Decimal.Denotes text n → n < 2 ^ bits →
      key.Takes text (.int n)

theorem range?_eq (key : Key) : key.range? = key.bits?.map fun bits => ⟨0, 2 ^ bits - 1⟩ := by
  cases key <;> rfl

theorem readValue_eq_ok {key : Key} {name text : List Char} {v : Value} :
    readValue key name text = .ok v ↔ key.Takes text v := by
  rw [readValue, range?_eq]
  cases hbits : key.bits? with
  | none =>
      constructor
      · rintro ⟨⟩
        exact .text hbits
      · rintro (_ | ⟨hsome, -, -⟩)
        · rfl
        · cases hbits.symm.trans hsome
  | some bits =>
      have hpow : (0 : Int) < 2 ^ bits := Int.pow_pos (by decide)
      have hread (i : Int) := @Decimal.read_eq_ok_iff ⟨0, 2 ^ bits - 1⟩ rfl (Int.le_sub_one_of_lt hpow) text i
      constructor
      · intro h
        dsimp only [Option.map_some] at h
        split at h
        · next i hi =>
          cases h
          obtain ⟨n, hn, hle, rfl⟩ := (hread i).mp hi
          exact .number hbits hn (by exact_mod_cast Int.lt_of_le_sub_one hle)
        · cases h
      · rintro (hnone | ⟨hsome, hn, hlt⟩)
        · cases hbits.symm.trans hnone
        · cases hbits.symm.trans hsome
          have hle := Int.le_sub_one_of_lt (Int.ofNat_lt.mpr hlt)
          have hok := (hread _).mpr ⟨_, hn, by exact_mod_cast hle, rfl⟩
          dsimp only [Option.map_some]
          rw [hok]

theorem Takes.unique {key : Key} {text : List Char} {v v' : Value} (h : key.Takes text v)
    (h' : key.Takes text v') : v = v' :=
  Except.ok.inj ((@readValue_eq_ok key [] text v |>.mpr h).symm.trans (readValue_eq_ok.mpr h'))

theorem exists_takes {key : Key} {text : List Char} :
    (∃ v, key.Takes text v) ↔
      ∀ bits, key.bits? = some bits → ∃ n, Decimal.Denotes text n ∧ n < 2 ^ bits := by
  constructor
  · rintro ⟨_, hnone | ⟨hsome, hn, hlt⟩⟩ bits hbits
    · cases hbits.symm.trans hnone
    · cases hbits.symm.trans hsome
      exact ⟨_, hn, hlt⟩
  · intro h
    cases hbits : key.bits? with
    | none => exact ⟨_, .text hbits⟩
    | some bits =>
        obtain ⟨n, hn, hlt⟩ := h bits hbits
        exact ⟨_, .number hbits hn hlt⟩

end Key

/-- What an environment gives a setting: the value of the one variable for it, or nothing if there is none. -/
inductive Gives (environment : Environment) (key : Key) : Option Value → Prop
  | nothing : (∀ name, key.NamedBy name → environment.lookup name = none) → Gives environment key none
  | value {name text : List Char} {v : Value} : key.NamedBy name → environment.lookup name = some text →
      (∀ other text', key.NamedBy other → environment.lookup other = some text' → other = name) →
      key.Takes text v → Gives environment key (some v)

namespace Gives

variable {environment : Environment} {key : Key} {given : Option Value} {name text : List Char}

theorem congr {others : Environment} (h : ∀ name, key.NamedBy name → others.lookup name = environment.lookup name)
    (hgives : Gives environment key given) : Gives others key given := by
  cases hgives with
  | nothing hnone => exact .nothing fun name hname => (h name hname).trans (hnone name hname)
  | value hname htext hone htakes =>
      exact .value hname ((h _ hname).trans htext)
        (fun other text' hother htext' => hone other text' hother ((h other hother).symm.trans htext')) htakes

theorem exists_takes {v : Value} : Gives environment key (some v) → ∃ text, key.Takes text v
  | .value _ _ _ htakes => ⟨_, htakes⟩

theorem eq_some (hgives : Gives environment key given) (h : key.NamedBy name)
    (htext : environment.lookup name = some text) : ∃ v, key.Takes text v ∧ given = some v := by
  cases hgives with
  | nothing hnone => exact nomatch (hnone name h).symm.trans htext
  | value hnamed htext' hone htakes =>
      obtain rfl := hone name text h htext
      cases htext.symm.trans htext'
      exact ⟨_, htakes, rfl⟩

theorem eq_none (hgives : Gives environment key given)
    (hnone : ∀ name, key.NamedBy name → environment.lookup name = none) : given = none := by
  cases hgives with
  | nothing _ => rfl
  | value hnamed htext _ _ => exact nomatch (hnone _ hnamed).symm.trans htext

theorem unique {other text' : List Char} (hgives : Gives environment key given) (h : key.NamedBy name)
    (h' : key.NamedBy other) (htext : environment.lookup name = some text)
    (htext' : environment.lookup other = some text') : name = other := by
  cases hgives with
  | nothing hnone => exact nomatch (hnone name h).symm.trans htext
  | value _ _ hone _ => rw [hone name text h htext, hone other text' h' htext']

theorem cons_of_foreign (h : ¬key.NamedBy name) :
    Gives ((name, text) :: environment) key given ↔ Gives environment key given := by
  have hlookup : ∀ other, key.NamedBy other →
      List.lookup other ((name, text) :: environment) = environment.lookup other := by
    intro other hother
    rw [lookup_cons_ite, if_neg]
    rintro rfl
    exact h hother
  exact ⟨.congr fun other hother => (hlookup other hother).symm, .congr hlookup⟩

theorem cons_of_namedBy (h : key.NamedBy name) (hnew : environment.lookup name = none) :
    Gives ((name, text) :: environment) key given ↔
      ∃ v, given = some v ∧ key.Takes text v ∧ Gives environment key none := by
  have hfirst : List.lookup name ((name, text) :: environment) = some text := by
    rw [lookup_cons_ite, if_pos rfl]
  constructor
  · intro hgives
    obtain ⟨v, htakes, rfl⟩ := hgives.eq_some h hfirst
    refine ⟨v, rfl, htakes, .nothing fun other hother => ?_⟩
    by_contra hsome
    obtain ⟨text', htext'⟩ := Option.ne_none_iff_exists'.mp hsome
    have hne : other ≠ name := by
      rintro rfl
      exact hsome hnew
    exact hne (hgives.unique hother h (by rwa [lookup_cons_ite, if_neg hne]) hfirst)
  · rintro ⟨v, rfl, htakes, ⟨hnone⟩⟩
    refine .value h hfirst (fun other text' hother htext' => ?_) htakes
    by_contra hne
    rw [lookup_cons_ite, if_neg hne, hnone other hother] at htext'
    cases htext'

end Gives

/-- What an environment adds for a setting to what was found before: a value where there was none. -/
def Extends (found : List (Key × Value)) (environment : Environment) (key : Key) (given : Option Value) :
    Prop :=
  match found.lookup key with
  | none => Gives environment key given
  | some v => given = some v ∧ Gives environment key none

namespace Extends

variable {found : List (Key × Value)} {environment : Environment} {key : Key} {given : Option Value}
  {name text : List Char}

theorem nil_iff : Extends found [] key given ↔ found.lookup key = given := by
  have hnil : ∀ given, Gives [] key given ↔ given = none := by
    intro given
    constructor
    · exact fun hgives => hgives.eq_none fun _ _ => rfl
    · rintro rfl
      exact .nothing fun _ _ => rfl
  rw [Extends]
  cases found.lookup key <;> simp [hnil, eq_comm]

theorem cons_of_foreign (h : ¬key.NamedBy name) :
    Extends found ((name, text) :: environment) key given ↔ Extends found environment key given := by
  simp only [Extends, Gives.cons_of_foreign h]

theorem cons_of_namedBy (h : key.NamedBy name) (hnew : environment.lookup name = none) :
    Extends found ((name, text) :: environment) key given ↔
      found.lookup key = none ∧ ∃ v, key.Takes text v ∧ Extends ((key, v) :: found) environment key given := by
  simp only [Extends, Gives.cons_of_namedBy h hnew, lookup_cons_ite, if_true]
  cases hfound : found.lookup key with
  | none =>
      simp only [true_and]
      exact exists_congr fun v => and_left_comm
  | some v => simp

end Extends

/-- What is gathered from an environment. -/
theorem gather_eq_ok {environment : Environment} (hnames : (environment.map Prod.fst).Nodup)
    {found : List (Key × Value)} {given : Key → Option Value} :
    (∃ all, gather found environment = .ok all ∧ ∀ key, all.lookup key = given key) ↔
      ∀ key, Extends found environment key (given key) := by
  induction environment generalizing found with
  | nil => simp [gather, Extends.nil_iff]
  | cons entry rest ih =>
      obtain ⟨name, text⟩ := entry
      rw [List.map_cons, List.nodup_cons] at hnames
      have hnew : rest.lookup name = none := Environment.lookup_eq_none.mpr hnames.1
      rw [gather]
      cases hkey : Key.ofName? name with
      | none =>
          have hforeign : ∀ key : Key, ¬key.NamedBy name := fun key h =>
            nomatch hkey.symm.trans (Key.ofName?_eq_some.mpr h)
          simp only [ih hnames.2, Extends.cons_of_foreign (hforeign _)]
      | some key =>
          have hnamed := Key.ofName?_eq_some.mp hkey
          have hforeign : ∀ other : Key, other ≠ key → ¬other.NamedBy name := fun other hne h =>
            hne (h.unique hnamed)
          have hcons : Extends found ((name, text) :: rest) key (given key) ↔ _ :=
            Extends.cons_of_namedBy hnamed hnew
          dsimp only
          cases hfound : found.lookup key with
          | some v =>
              refine iff_of_false (fun ⟨_, hall, _⟩ => nomatch hall) fun h => ?_
              exact nomatch hfound.symm.trans (hcons.mp (h key)).1
          | none =>
              cases hread : readValue key name text with
              | error fault =>
                  refine iff_of_false (fun ⟨_, hall, _⟩ => nomatch hall) fun h => ?_
                  obtain ⟨-, v, htakes, -⟩ := hcons.mp (h key)
                  exact nomatch hread.symm.trans (Key.readValue_eq_ok.mpr htakes)
              | ok v =>
                  have htakes := Key.readValue_eq_ok.mp hread
                  refine (ih hnames.2).trans (forall_congr' fun other => ?_)
                  by_cases heq : other = key
                  case pos =>
                    subst heq
                    rw [hcons, hfound]
                    exact ⟨fun h => ⟨rfl, v, htakes, h⟩, fun ⟨_, v', htakes', h⟩ => htakes.unique htakes' ▸ h⟩
                  case neg =>
                    rw [Extends.cons_of_foreign (hforeign other heq), Extends, Extends, lookup_cons_ite, if_neg heq]

theorem gather_gives {environment : Environment} (hnames : (environment.map Prod.fst).Nodup)
    {given : Key → Option Value} :
    (∃ all, gather [] environment = .ok all ∧ ∀ key, all.lookup key = given key) ↔
      ∀ key, Gives environment key (given key) :=
  gather_eq_ok hnames

end Passbook.Settings
