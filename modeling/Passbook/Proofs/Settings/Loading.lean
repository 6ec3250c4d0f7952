import Passbook.Proofs.Settings.Variables

/-!
# Where settings come from

The environment comes before the file that completes it: a setting has the value of the variable for it in
the environment, or else of the first definition for it in the file, or else its default. Loading succeeds
if and only if the file can be loaded, no two variables are for one setting, one is for the URL of the
database, and those for numbers denote numbers that fit. Other variables never matter.
-/
namespace Passbook.Settings

open EnvFile (Settable)

def value? (settings : Settings) : Key → Option Value
  | .databaseUrl => some (.text settings.databaseUrl)
  | .serverPort => some (.int settings.serverPort)
  | .maxConnections => some (.int settings.maxConnections)
  | .transactionLimit => some (.int settings.transactionLimit)
  | .queueCapacity => some (.int settings.queueCapacity)
  | .taskDelay => some (.int settings.taskDelay)
  | .verifyUrlBase => some (.text settings.verifyUrlBase)
  | .relayUrl => settings.relayUrl.map .text
  | .relaySecret => settings.relaySecret.map .text

/-- The value of a setting that no variable is for, if it then has one. -/
def default? : Key → Option Value
  | .serverPort => some (.int 3000)
  | .maxConnections => some (.int 5)
  | .transactionLimit => some (.int 10000)
  | .queueCapacity => some (.int 1024)
  | .taskDelay => some (.int 1000)
  | .verifyUrlBase => some (.text "http://localhost:3000/api/v1/verify_email".toList)
  | .databaseUrl | .relayUrl | .relaySecret => none

theorem ext_value? {settings other : Settings} (h : ∀ key, settings.value? key = other.value? key) :
    settings = other := by
  have htext : ∀ {s t : Option (List Char)}, s.map Value.text = t.map .text → s = t := fun heq =>
    Option.map_injective (fun _ _ => Value.text.inj) heq
  cases settings
  cases other
  rw [mk.injEq]
  exact ⟨Value.text.inj (Option.some.inj (h .databaseUrl)), Value.int.inj (Option.some.inj (h .serverPort)),
    Value.int.inj (Option.some.inj (h .maxConnections)), Value.int.inj (Option.some.inj (h .transactionLimit)),
    Value.int.inj (Option.some.inj (h .queueCapacity)), Value.int.inj (Option.some.inj (h .taskDelay)),
    Value.text.inj (Option.some.inj (h .verifyUrlBase)), htext (h .relayUrl), htext (h .relaySecret)⟩

/-- Whether every value that was found is one that its setting can have. -/
def Fits (found : List (Key × Value)) : Prop :=
  ∀ key v, found.lookup key = some v → ∃ text, key.Takes text v

variable {found : List (Key × Value)}

theorem Fits.text? (h : Fits found) {key : Key} (hkey : key.bits? = none) :
    found.lookup key = (text? found key).map .text := by
  rw [Settings.text?]
  cases hfound : found.lookup key with
  | none => rfl
  | some v =>
      obtain ⟨text, htext | ⟨hsome, -, -⟩⟩ := h key v hfound
      · rfl
      · cases hkey.symm.trans hsome

theorem Fits.int? (h : Fits found) {key : Key} (hkey : key.bits? ≠ none) :
    found.lookup key = (int? found key).map .int := by
  rw [Settings.int?]
  cases hfound : found.lookup key with
  | none => rfl
  | some v =>
      obtain ⟨text, hnone | ⟨hsome, -, -⟩⟩ := h key v hfound
      · exact absurd hnone hkey
      · rfl

theorem exists_complete (h : Fits found) {v : Value} (hurl : found.lookup .databaseUrl = some v) :
    ∃ settings, complete found = .ok settings := by
  rw [h.text? rfl] at hurl
  obtain ⟨url, hurl, -⟩ := Option.map_eq_some_iff.mp hurl
  rw [complete, hurl]
  exact ⟨_, rfl⟩

/-- What was found is completed by defaults. -/
theorem complete_eq_ok (h : Fits found) {settings : Settings} :
    complete found = .ok settings ↔ ∀ key, settings.value? key = (found.lookup key).or (default? key) := by
  have hmp : ∀ {settings}, complete found = .ok settings →
      ∀ key, settings.value? key = (found.lookup key).or (default? key) := by
    intro settings hcomplete key
    rw [complete] at hcomplete
    split at hcomplete
    · cases hcomplete
    · next url hurl =>
      cases hcomplete
      cases key
      case databaseUrl => rw [h.text? rfl, hurl]; rfl
      case verifyUrlBase => rw [h.text? rfl, default?, Option.or_some, Option.getD_map]; rfl
      case relayUrl | relaySecret => rw [h.text? rfl, default?, Option.or_none]; rfl
      all_goals rw [h.int? (by decide), default?, Option.or_some, Option.getD_map]; rfl
  refine ⟨hmp, fun hvalues => ?_⟩
  have hurl := hvalues .databaseUrl
  rw [default?, Option.or_none] at hurl
  obtain ⟨completed, hcompleted⟩ := exists_complete h hurl.symm
  rw [hcompleted, ext_value? fun key => (hvalues key).trans (hmp hcompleted key).symm]

theorem Fits.of_gives {environment : Environment} (h : ∀ key, Gives environment key (found.lookup key)) :
    Fits found := fun key _ hv => (hv ▸ h key).exists_takes

/-- Whether the variables of an environment are enough for settings. -/
structure Suffices (environment : Environment) : Prop where
  /-- no two variables are for one setting -/
  distinct : ∀ key : Key, ∀ name other text text', key.NamedBy name → key.NamedBy other →
    environment.lookup name = some text → environment.lookup other = some text' → name = other
  /-- one is for the URL of the database -/
  database : ∃ name text, Key.databaseUrl.NamedBy name ∧ environment.lookup name = some text
  /-- those for numbers denote numbers that fit -/
  numbers : ∀ key : Key, ∀ bits, key.bits? = some bits → ∀ name text, key.NamedBy name →
    environment.lookup name = some text → ∃ n, Decimal.Denotes text n ∧ n < 2 ^ bits

theorem Suffices.congr {environment others : Environment} (h : ∀ name, others.lookup name = environment.lookup name)
    (hsuffices : Suffices environment) : Suffices others where
  distinct := by simpa only [h] using hsuffices.distinct
  database := by simpa only [h] using hsuffices.database
  numbers := by simpa only [h] using hsuffices.numbers

theorem Suffices.exists_gives {environment : Environment} (h : Suffices environment) (key : Key) :
    ∃ given, Gives environment key given := by
  by_cases hnone : ∀ name, key.NamedBy name → environment.lookup name = none
  case pos => exact ⟨none, .nothing hnone⟩
  case neg =>
    simp only [not_forall] at hnone
    obtain ⟨name, hnamed, hsome⟩ := hnone
    obtain ⟨text, htext⟩ := Option.ne_none_iff_exists'.mp hsome
    obtain ⟨v, htakes⟩ := Key.exists_takes.mpr fun bits hbits => h.numbers key bits hbits name text hnamed htext
    exact ⟨some v, .value hnamed htext (fun other text' hother htext' =>
      h.distinct key other name text' text hother hnamed htext' htext) htakes⟩

section
variable {environment : Environment} (hnames : (environment.map Prod.fst).Nodup)
include hnames

/-- The settings have what the environment gives them, and otherwise their defaults. -/
theorem ofEnvironment_eq_ok {settings : Settings} :
    ofEnvironment environment = .ok settings ↔
      ∀ key, ∃ given, Gives environment key given ∧ settings.value? key = given.or (default? key) := by
  constructor
  case mp =>
    intro h
    rw [ofEnvironment] at h
    cases hall : gather [] environment with
    | error fault =>
        rw [hall] at h
        cases h
    | ok all =>
        rw [hall] at h
        have hgives : ∀ key, Gives environment key (all.lookup key) :=
          (gather_gives hnames).mp ⟨all, hall, fun _ => rfl⟩
        exact fun key => ⟨_, hgives key, (complete_eq_ok (.of_gives hgives)).mp h key⟩
  case mpr =>
    intro h
    choose given hgives hvalues using h
    obtain ⟨all, hall, hlookup⟩ := (gather_gives hnames).mpr hgives
    simp only [← hlookup] at hgives hvalues
    rw [ofEnvironment, hall]
    exact (complete_eq_ok (.of_gives hgives)).mpr hvalues

/-- There are settings if and only if the environment suffices. -/
theorem exists_ofEnvironment : (∃ settings, ofEnvironment environment = .ok settings) ↔ Suffices environment := by
  constructor
  case mp =>
    rintro ⟨settings, h⟩
    rw [ofEnvironment_eq_ok hnames] at h
    constructor
    case distinct =>
      intro key name other text text' hname hother htext htext'
      obtain ⟨given, hgives, -⟩ := h key
      exact hgives.unique hname hother htext htext'
    case database =>
      obtain ⟨given, hgives, hvalue⟩ := h .databaseUrl
      cases hgives with
      | nothing hnone => cases hvalue
      | value hnamed htext _ _ => exact ⟨_, _, hnamed, htext⟩
    case numbers =>
      intro key bits hbits name text hname htext
      obtain ⟨given, hgives, -⟩ := h key
      obtain ⟨v, htakes, -⟩ := hgives.eq_some hname htext
      exact Key.exists_takes.mp ⟨v, htakes⟩ bits hbits
  case mpr =>
    intro h
    choose given hgives using h.exists_gives
    obtain ⟨all, hall, hlookup⟩ := (gather_gives hnames).mpr hgives
    simp only [← hlookup] at hgives
    obtain ⟨name, text, hname, htext⟩ := h.database
    obtain ⟨v, -, hurl⟩ := (hgives .databaseUrl).eq_some hname htext
    rw [ofEnvironment, hall]
    exact exists_complete (.of_gives hgives) hurl

end

def defined (environment : Environment) : Option (List Char) → Environment
  | none => []
  | some text => EnvFile.definitions environment text

theorem load_cases {environment : Environment} (hnames : (environment.map Prod.fst).Nodup)
    (file : Option (List Char)) :
    (Settable environment (defined environment file) ∧
      ∃ after, load environment file = ofEnvironment after ∧ (after.map Prod.fst).Nodup ∧
        ∀ name, after.lookup name = (environment ++ defined environment file).lookup name) ∨
    (¬Settable environment (defined environment file) ∧
      ∃ fault, load environment file = .error fault) := by
  cases file with
  | none =>
      refine .inl ⟨EnvFile.settable_nil, environment, rfl, hnames, fun name => ?_⟩
      rw [defined, List.append_nil]
  | some text =>
      rw [load]
      rcases EnvFile.load_cases hnames text with ⟨hsettable, after, hload, hafter⟩ | ⟨hsettable, definition, hload⟩
      · exact .inl ⟨hsettable, after, by rw [hload], hafter⟩
      · exact .inr ⟨hsettable, _, by rw [hload]⟩

section
variable {environment : Environment} (hnames : (environment.map Prod.fst).Nodup) (file : Option (List Char))
include hnames

theorem load_eq_ok {settings : Settings} :
    load environment file = .ok settings ↔
      Settable environment (defined environment file) ∧
        ∀ key, ∃ given, Gives (environment ++ defined environment file) key given ∧
          settings.value? key = given.or (default? key) := by
  rcases load_cases hnames file with ⟨hsettable, after, hload, hafter, hlookup⟩ | ⟨hsettable, fault, hload⟩
  · have hgives : ∀ key given, Gives after key given ↔ Gives (environment ++ defined environment file) key given :=
      fun key given => ⟨.congr fun name _ => (hlookup name).symm, .congr fun name _ => hlookup name⟩
    rw [hload, ofEnvironment_eq_ok hafter, and_iff_right hsettable]
    simp only [hgives]
  · rw [hload]
    exact iff_of_false (nomatch ·) fun h => hsettable h.1

theorem exists_load :
    (∃ settings, load environment file = .ok settings) ↔
      Settable environment (defined environment file) ∧ Suffices (environment ++ defined environment file) := by
  rcases load_cases hnames file with ⟨hsettable, after, hload, hafter, hlookup⟩ | ⟨hsettable, fault, hload⟩
  · rw [hload, exists_ofEnvironment hafter, and_iff_right hsettable]
    exact ⟨.congr fun name => (hlookup name).symm, .congr hlookup⟩
  · rw [hload]
    exact iff_of_false (fun ⟨_, h⟩ => nomatch h) fun h => hsettable h.1

end

/-- What decides a setting: a variable of the environment, else a definition of a file, else nothing. -/
structure TakenFrom (settings : Settings) (environment definitions : Environment) (key : Key) : Prop where
  /-- a variable of the environment for the setting gives its value -/
  fromEnvironment : ∀ name text, key.NamedBy name → environment.lookup name = some text →
    ∃ v, key.Takes text v ∧ settings.value? key = some v
  /-- if there is none, the first definition of a variable for the setting does -/
  fromFile : (∀ name, key.NamedBy name → environment.lookup name = none) →
    ∀ name text, key.NamedBy name → definitions.lookup name = some text →
      ∃ v, key.Takes text v ∧ settings.value? key = some v
  /-- if there is none of these either, the setting has its default -/
  byDefault : (∀ name, key.NamedBy name → environment.lookup name = none ∧ definitions.lookup name = none) →
    settings.value? key = default? key

theorem Gives.takenFrom {environment definitions : Environment} {key : Key} {given : Option Value}
    {settings : Settings} (hgives : Gives (environment ++ definitions) key given)
    (hvalue : settings.value? key = given.or (default? key)) :
    settings.TakenFrom environment definitions key := by
  have hgiven : ∀ name text, key.NamedBy name → (environment ++ definitions).lookup name = some text →
      ∃ v, key.Takes text v ∧ settings.value? key = some v := by
    intro name text hname htext
    obtain ⟨v, htakes, rfl⟩ := hgives.eq_some hname htext
    exact ⟨v, htakes, hvalue⟩
  constructor
  case fromEnvironment =>
    intro name text hname htext
    exact hgiven name text hname (by rw [List.lookup_append, htext]; rfl)
  case fromFile =>
    intro hnone name text hname htext
    exact hgiven name text hname (by rw [List.lookup_append, hnone name hname, htext]; rfl)
  case byDefault =>
    intro hnone
    have hnothing := hgives.eq_none fun name hname => by
      rw [List.lookup_append, (hnone name hname).1, (hnone name hname).2]
      rfl
    rw [hvalue, hnothing, Option.none_or]

/-- The environment comes before the file, and the file before the defaults. Settings are loaded if and only
if the definitions of the file can be set and the environment that they complete suffices. Variables that
are for no setting make no difference then. -/
theorem environment_before_file {environment : Environment} (hnames : (environment.map Prod.fst).Nodup)
    (file : Option (List Char)) :
    (∀ settings, load environment file = .ok settings →
      ∀ key, settings.TakenFrom environment (defined environment file) key) ∧
    ((∃ settings, load environment file = .ok settings) ↔
      Settable environment (defined environment file) ∧ Suffices (environment ++ defined environment file)) ∧
    (∀ settings, load environment file = .ok settings →
      ∀ (environment' : Environment) (file' : Option (List Char)), (environment'.map Prod.fst).Nodup →
        Settable environment' (defined environment' file') →
        (∀ key : Key, ∀ name, key.NamedBy name → (environment' ++ defined environment' file').lookup name =
          (environment ++ defined environment file).lookup name) →
        load environment' file' = .ok settings) := by
  refine ⟨?_, exists_load hnames file, ?_⟩
  · intro settings h key
    obtain ⟨given, hgives, hvalue⟩ := ((load_eq_ok hnames file).mp h).2 key
    exact hgives.takenFrom hvalue
  · intro settings h environment' file' hnames' hsettable hsame
    refine (load_eq_ok hnames' file').mpr ⟨hsettable, fun key => ?_⟩
    obtain ⟨given, hgives, hvalue⟩ := ((load_eq_ok hnames file).mp h).2 key
    exact ⟨given, .congr (hsame key) hgives, hvalue⟩

/-- A delay under a name with small letters, and a variable that is for no setting. -/
def someEnvironment : Environment :=
  [("Task_Delay_ms".toList, "250".toList), ("HOME".toList, "/root".toList)]

/-- The fifth line is wrong. -/
def someFile : List Char :=
  "DATABASE_URL=pg:$HOME\nSERVER_PORT=+80\nSERVER_PORT=bad\nTask_Delay_ms=9\nno definition\nMAX_CONNECTIONS=7".toList

def someSettings : Settings where
  databaseUrl := "pg:/root".toList
  serverPort := 80
  maxConnections := 5
  transactionLimit := 10000
  queueCapacity := 1024
  taskDelay := 250
  verifyUrlBase := defaultVerifyUrlBase.toList
  relayUrl := none
  relaySecret := none

theorem load_someFile : load someEnvironment (some someFile) = .ok someSettings := by
  decide +kernel

theorem environment_before_file_delay :
    (someEnvironment.map Prod.fst).Nodup ∧
      (∀ key, someSettings.TakenFrom someEnvironment (defined someEnvironment (some someFile)) key) ∧
      Settable someEnvironment (defined someEnvironment (some someFile)) ∧
      Suffices (someEnvironment ++ defined someEnvironment (some someFile)) := by
  have hnames : (someEnvironment.map Prod.fst).Nodup := by decide +kernel
  obtain ⟨htaken, hexists, -⟩ := environment_before_file hnames (some someFile)
  exact ⟨hnames, htaken someSettings load_someFile, hexists.mp ⟨someSettings, load_someFile⟩⟩

def bareEnvironment : Environment := [("DATABASE_URL".toList, "pg:".toList)]

/-- A variable that is for no setting, with a null character in its value. -/
def nullFile : List Char := "NOTE=\x00".toList

/-- The variables suffice, but the file cannot be loaded. -/
theorem load_null_definition :
    (bareEnvironment.map Prod.fst).Nodup ∧
      defined bareEnvironment (some nullFile) = [("NOTE".toList, ['\x00'])] ∧
      Suffices (bareEnvironment ++ defined bareEnvironment (some nullFile)) ∧
      ¬∃ settings, load bareEnvironment (some nullFile) = .ok settings := by
  have hdefined : defined bareEnvironment (some nullFile) = [("NOTE".toList, ['\x00'])] := by decide +kernel
  have hfault : load bareEnvironment (some nullFile) = .error (.unsettable ⟨"NOTE".toList, ['\x00']⟩) := by
    decide +kernel
  refine ⟨by decide +kernel, hdefined, ?_, fun ⟨settings, h⟩ => nomatch hfault.symm.trans h⟩
  rw [hdefined]
  exact (exists_ofEnvironment (by decide +kernel)).mp ⟨{ someSettings with
    databaseUrl := "pg:".toList, serverPort := 3000, taskDelay := 1000 }, by decide +kernel⟩

end Passbook.Settings
