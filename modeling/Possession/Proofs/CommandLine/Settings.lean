import Possession.CommandLine.Run
import Possession.Proofs.CommandLine.Arguments
import Possession.Proofs.Files.Interruption
import Possession.Proofs.Text.Split

/-!
# Under which settings a command runs

Settings come from a file or from variables, and the arguments may ask for another store. This module
says which of them counts, for every list of arguments, whatever the files hold and whatever the
variables say.

A file is not overridden by the variables that hold settings, with one exception: the variable for
the store is also read with the arguments, where it stands in for an option that goes before the
file. `StoreVariableIsIdle` tells when it makes no difference.

* `CommandLine.found` are the settings that a command finds, and `CommandLine.loaded` those that it
  runs under.
* `CommandLine.settings_precedence` says what they depend on, and that a command whose settings
  cannot work does not come to its store.
-/

namespace Possession

/-! ## Settings with another store -/

namespace Settings

variable {settings : Settings} {store? : Option StoreKind}

/-- Settings with the store that was asked for, if one was. -/
def withStore (store? : Option StoreKind) (settings : Settings) : Settings :=
  { settings with store := store?.getD settings.store }

/-- Settings, if they can work. -/
def checked (settings : Settings) : Except SettingsError Settings :=
  settings.validate.map fun () => settings

theorem withStore_withStore (first second : Option StoreKind) (settings : Settings) :
    (settings.withStore second).withStore first = settings.withStore (first.or second) := by
  cases first with
  | none => rfl
  | some kind => rfl

/-- Which store holds the key does not matter to whether settings can work. -/
theorem checked_withStore (store? : Option StoreKind) (settings : Settings) :
    (settings.withStore store?).checked = settings.checked.map (withStore store?) := by
  have hvalidate : (settings.withStore store?).validate = settings.validate := rfl
  rw [checked, checked, hvalidate]
  cases settings.validate <;> rfl

theorem checked_eq_ok_iff {other : Settings} :
    settings.checked = .ok other ↔ other = settings ∧ settings.validate = .ok () := by
  rw [checked, Outcome.map_eq_ok_iff]
  constructor
  · rintro ⟨⟨⟩, hvalid, rfl⟩
    exact ⟨rfl, hvalid⟩
  · rintro ⟨rfl, hvalid⟩
    exact ⟨(), hvalid, rfl⟩

theorem checked_of_error {error : SettingsError} (h : settings.validate = .error error) :
    settings.checked = .error error := by
  rw [checked, h]
  rfl

end Settings

/-! ## Settings from variables -/

namespace StoreKind

/-- Blanks around the name of a kind do not matter. -/
theorem parse_trim (text : String) : parse (Text.trim text) = parse text := by
  rw [parse, parse, Text.trim_trim]

end StoreKind

namespace Settings

section

variable {α : Type} {environment : Environment} {name : String} {read? : String → Option α}
  {change : Settings → α → Settings} {settings after : Settings}

/-- What a variable does to settings: nothing where it is not set, and otherwise the change that its
value asks for. -/
theorem setFrom_cases (h : setFrom environment name read? change settings = .ok after) :
    (environment name = none ∧ after = settings) ∨
      ∃ value setting, environment name = some value ∧
        read? (Text.trim value) = some setting ∧ after = change settings setting := by
  rw [setFrom] at h
  split at h
  · next hnone =>
    cases h
    exact .inl ⟨hnone, rfl⟩
  · next value hvalue =>
    split at h
    · next setting hsetting =>
      cases h
      exact .inr ⟨value, setting, hvalue, hsetting, rfl⟩
    · cases h

theorem store_of_setFrom (h : setFrom environment name read? change settings = .ok after)
    (hchange : ∀ setting, (change settings setting).store = settings.store) :
    after.store = settings.store := by
  rcases setFrom_cases h with ⟨-, rfl⟩ | ⟨value, setting, -, -, rfl⟩
  · rfl
  · exact hchange setting

theorem store_setDirectory (environment : Environment) (settings : Settings) :
    (setDirectory environment settings).store = settings.store := by
  rw [setDirectory]
  split <;> rfl

/-- Settings that variables make up have the store that the variable for it names. -/
theorem store_of_ofEnvironment (h : ofEnvironment environment = .ok settings) {text : String}
    (hvariable : environment storeVariable = some text) :
    StoreKind.parse text = .ok settings.store := by
  rw [ofEnvironment, Outcome.bind_eq_ok_iff] at h
  obtain ⟨first, hfirst, h⟩ := h
  dsimp only at h
  rw [Outcome.bind_eq_ok_iff] at h
  obtain ⟨second, hsecond, h⟩ := h
  rw [Outcome.bind_eq_ok_iff] at h
  obtain ⟨third, hthird, h⟩ := h
  have hstore : settings.store = first.store := by
    calc
      settings.store = third.store := store_of_setFrom h fun _ => rfl
      _ = second.store := store_of_setFrom hthird fun _ => rfl
      _ = (setDirectory environment first).store := store_of_setFrom hsecond fun _ => rfl
      _ = first.store := store_setDirectory environment first
  rcases setFrom_cases hfirst with ⟨hnone, -⟩ | ⟨value, kind, hvalue, hkind, rfl⟩
  · rw [hnone] at hvariable
    cases hvariable
  · cases hvariable.symm.trans hvalue
    rw [StoreKind.parse_trim, Outcome.toOption_eq_some_iff] at hkind
    rw [hstore, hkind]

end

end Settings

/-! ## Answers of files -/

/-- What files answer to whoever asks. -/
abbrev Files : Type :=
  (call : FileCall) → call.Answer

namespace Files

/-- Whether there is anything at the end of a path. -/
def isPresent (files : Files) (path : Path) : Bool :=
  files (.isPresent path)

/-- What a file holds, or why it cannot be read. -/
def read (files : Files) (path : Path) : Except FileFault Bytes :=
  files (.read path)

end Files

namespace FileDialogue

variable {α β : Type}

/-- What a procedure comes to when files answer it. -/
def answeredBy (files : Files) : FileDialogue α → α
  | .done value => value
  | .ask call next => answeredBy files (next (files call))

theorem answeredBy_bind (files : Files) (dialogue : FileDialogue α)
    (continuation : α → FileDialogue β) :
    answeredBy files (dialogue >>= continuation) =
      answeredBy files (continuation (answeredBy files dialogue)) := by
  change answeredBy files (dialogue.bind continuation) = _
  induction dialogue with
  | done value => rfl
  | ask call next ih => exact ih (files call)

end FileDialogue

open Settings (Environment storeVariable)
open Arguments (gives storeName withStoreVariable)

namespace Surroundings

/-- The same surroundings, but no variable holds a setting. -/
def bare (surroundings : Surroundings) : Surroundings :=
  { surroundings with environment := surroundings.environment.bare }

end Surroundings

namespace CommandLine

open FileDialogue (answeredBy answeredBy_bind)

variable {files : Files} {surroundings other : Surroundings} {arguments : List String}
  {invocation asked : Invocation}

/-! ## What settings depend on -/

/-- Whether settings are read from a file: one was asked for, or there is one in the usual place. -/
def readsFile (files : Files) (surroundings : Surroundings) (invocation : Invocation) : Bool :=
  invocation.settingsFile.isSome || files.isPresent (settingsPath surroundings.environment)

/-- The file of settings: the one that was asked for, or else the one in the usual place. -/
def settingsFile (surroundings : Surroundings) (invocation : Invocation) : Path :=
  match invocation.settingsFile with
  | some file => Path.fromText surroundings.workingDirectory file
  | none => settingsPath surroundings.environment

/-- The settings that a command finds, whether they can work or not. -/
def found (files : Files) (surroundings : Surroundings) (invocation : Invocation) :
    Except SettingsError Settings :=
  if readsFile files surroundings invocation then
    Settings.ofFile (files.read (settingsFile surroundings invocation))
  else Settings.ofEnvironment surroundings.environment

/-- The settings that a command runs under, or why it does not come to that. -/
def loaded (files : Files) (surroundings : Surroundings) (arguments : List String) :
    Except Arguments.Stop (Except SettingsError Settings) :=
  (Arguments.read surroundings.environment arguments).map fun invocation =>
    answeredBy files (effectiveSettings surroundings invocation)

/-- The settings with the store that was asked for, if they can work. -/
def settle (store? : Option StoreKind) (settings : Except SettingsError Settings) :
    Except SettingsError Settings :=
  settings >>= fun settings => (settings.withStore store?).checked

/-- Settings that are checked twice come to what they come to when they are checked once. -/
theorem settle_checked (store? : Option StoreKind) (settings : Except SettingsError Settings) :
    settle store? (settings >>= Settings.checked) = settle store? settings := by
  cases settings with
  | error error => rfl
  | ok settings =>
    simp only [settle, Outcome.ok_bind, Settings.checked_withStore]
    cases hchecked : settings.checked with
    | error error => rfl
    | ok checked =>
      rcases Settings.checked_eq_ok_iff.mp hchecked with ⟨rfl, -⟩
      rw [Outcome.ok_bind, hchecked]

/-- Another store does not decide whether settings can work. -/
theorem settle_or (first second : Option StoreKind) (settings : Except SettingsError Settings) :
    settle (first.or second) settings = (settle second settings).map (Settings.withStore first) := by
  cases settings with
  | error error => rfl
  | ok settings =>
    calc
      settle (first.or second) (.ok settings)
          = ((settings.withStore second).withStore first).checked := by
            rw [Settings.withStore_withStore]
            rfl
      _ = (settle second (.ok settings)).map (Settings.withStore first) :=
        Settings.checked_withStore first _

theorem answeredBy_readUsualSettings (files : Files) (environment : Environment) :
    answeredBy files (readUsualSettings environment) =
      (if files.isPresent (settingsPath environment) then
        Settings.ofFile (files.read (settingsPath environment))
      else Settings.ofEnvironment environment) >>= Settings.checked := by
  have hpresent : answeredBy files (FileDialogue.isPresent (settingsPath environment)) =
      files.isPresent (settingsPath environment) := rfl
  rw [readUsualSettings, answeredBy_bind, hpresent]
  cases files.isPresent (settingsPath environment) with
  | false => rfl
  | true => rfl

theorem answeredBy_effectiveSettings (files : Files) (surroundings : Surroundings)
    (invocation : Invocation) :
    answeredBy files (effectiveSettings surroundings invocation) =
      settle invocation.store (found files surroundings invocation) := by
  rw [effectiveSettings, found, readsFile, settingsFile]
  cases invocation.settingsFile with
  | some file => rfl
  | none =>
    dsimp only
    rw [answeredBy_bind, answeredBy_readUsualSettings]
    exact settle_checked _ _

theorem loaded_eq (files : Files) (surroundings : Surroundings) (arguments : List String) :
    loaded files surroundings arguments =
      (Arguments.read surroundings.environment arguments).map fun invocation =>
        settle invocation.store (found files surroundings invocation) := by
  simp only [loaded, answeredBy_effectiveSettings]

/-! ## The variables -/

theorem settingsPath_bare (environment : Environment) :
    settingsPath environment.bare = settingsPath environment := by
  have hconfig : environment.bare "XDG_CONFIG_HOME" = environment "XDG_CONFIG_HOME" :=
    Environment.bare_eq_of_notMem (by decide)
  have hhome : environment.bare "HOME" = environment "HOME" :=
    Environment.bare_eq_of_notMem (by decide)
  simp only [settingsPath, userPlace, userPlace.home, hconfig, hhome]

/-- The variables for settings have no part in whether a file is read, nor in which. -/
theorem readsFile_bare (files : Files) (surroundings : Surroundings) (invocation : Invocation) :
    readsFile files surroundings.bare invocation = readsFile files surroundings invocation := by
  rw [readsFile, readsFile, Surroundings.bare, settingsPath_bare]

theorem settingsFile_bare (surroundings : Surroundings) (invocation : Invocation) :
    settingsFile surroundings.bare invocation = settingsFile surroundings invocation := by
  rw [settingsFile, settingsFile, Surroundings.bare, settingsPath_bare]

/-- Settings that are read from a file are those of the file. -/
theorem found_bare (h : readsFile files surroundings invocation = true) :
    found files surroundings.bare invocation = found files surroundings invocation := by
  rw [found, found, readsFile_bare, settingsFile_bare, if_pos h, if_pos h]

/-! ## Settings from a file -/

/-- What the variable for the store adds to what is asked for has no part in which settings are
found. -/
theorem found_of_withStoreVariable
    (h : withStoreVariable surroundings.environment arguments asked = .ok invocation) :
    found files surroundings invocation = found files surroundings asked := by
  have hfile : invocation.settingsFile = asked.settingsFile := by
    rw [withStoreVariable] at h
    split at h
    · cases h
      rfl
    · split at h
      · cases h
        rfl
      · split at h
        · cases h
          rfl
        · cases h
  simp only [found, readsFile, settingsFile, hfile]
  rfl

/-- What the variables do to the settings under which a command runs: they are looked at where there
is no file, and the one for the store is looked at with the arguments. -/
theorem loaded_of_asked (hasked : Arguments.read surroundings.bare.environment arguments = .ok asked)
    (files : Files) :
    loaded files surroundings arguments =
      (withStoreVariable surroundings.environment arguments asked).map fun invocation =>
        settle invocation.store (found files surroundings asked) := by
  have hread : Arguments.read surroundings.environment arguments =
      withStoreVariable surroundings.environment arguments asked := by
    rw [Arguments.read_eq]
    change Arguments.read surroundings.bare.environment arguments >>= _ = _
    rw [hasked, Outcome.ok_bind]
  rw [loaded_eq, hread]
  cases hwith : withStoreVariable surroundings.environment arguments asked with
  | error stop => rfl
  | ok invocation =>
    rw [Outcome.map_ok, Outcome.map_ok, found_of_withStoreVariable hwith]

/-- Settings of a file under no variable are the file's, with the store that the arguments name. -/
theorem loaded_bare (hasked : Arguments.read surroundings.bare.environment arguments = .ok asked)
    (hfile : readsFile files surroundings asked = true) :
    loaded files surroundings.bare arguments =
      .ok (settle asked.store (found files surroundings asked)) := by
  rw [loaded_eq, hasked, Outcome.map_ok, found_bare hfile]

/-- When the variable for the store makes no difference: where it is not looked at, and where it
names the store that was asked for or that the settings come to without it. -/
def StoreVariableIsIdle (files : Files) (surroundings : Surroundings) (arguments : List String)
    (asked : Invocation) : Prop :=
  ∀ text, surroundings.environment storeVariable = some text →
    2 ≤ arguments.countP (gives storeName) ∨
      ∃ kind, StoreKind.parse text = .ok kind ∧
        (asked.store.isSome ∨
          ∀ settings, loaded files surroundings.bare arguments = .ok (.ok settings) →
            settings.store = kind)

theorem map_withStore_eq_self_iff {settings : Except SettingsError Settings} {kind : StoreKind} :
    settings.map (Settings.withStore (some kind)) = settings ↔
      ∀ set, settings = .ok set → set.store = kind := by
  cases settings with
  | error error =>
    refine ⟨fun _ set hset => ?_, fun _ => rfl⟩
    cases hset
  | ok settings =>
    constructor
    · rintro h set ⟨⟩
      exact (congrArg Settings.store (Except.ok.inj h)).symm
    · intro h
      have hstore : settings.store = kind := h settings rfl
      subst hstore
      rfl

/-- A store that is named behind another does nothing, and otherwise it replaces the one set. -/
theorem settle_or_some_eq_iff {store? : Option StoreKind} {kind : StoreKind}
    {settings : Except SettingsError Settings} :
    settle (store?.or (some kind)) settings = settle store? settings ↔
      store?.isSome ∨ ∀ set, settle store? settings = .ok set → set.store = kind := by
  cases store? with
  | some other => exact ⟨fun _ => .inl rfl, fun _ => rfl⟩
  | none =>
    have hor : (none : Option StoreKind).or (some kind) = (some kind).or none := rfl
    rw [hor, settle_or, map_withStore_eq_self_iff]
    exact ⟨.inr, fun h => h.resolve_left Bool.false_ne_true⟩

/-- Settings of a file are those under no variable exactly when the variable for the store makes no
difference. -/
theorem loaded_eq_bare_iff
    (hasked : Arguments.read surroundings.bare.environment arguments = .ok asked)
    (hfile : readsFile files surroundings asked = true) :
    loaded files surroundings arguments = loaded files surroundings.bare arguments ↔
      StoreVariableIsIdle files surroundings arguments asked := by
  rw [StoreVariableIsIdle, loaded_bare hasked hfile, loaded_of_asked hasked, withStoreVariable]
  cases surroundings.environment storeVariable with
  | none =>
    refine ⟨fun _ text htext => ?_, fun _ => rfl⟩
    cases htext
  | some text =>
    by_cases htwice : 2 ≤ arguments.countP (gives storeName)
    · simp only [if_pos htwice, Outcome.map_ok, true_iff]
      exact fun _ _ => .inl htwice
    · simp only [if_neg htwice, Option.some.injEq, forall_eq', or_iff_right htwice]
      cases StoreKind.parse text with
      | error error => simp
      | ok kind =>
        simp only [Outcome.map_ok, Except.ok.injEq, settle_or_some_eq_iff, exists_eq_left']

/-! ## Settings without a file -/

theorem found_of_not_readsFile (h : readsFile files surroundings asked = false) :
    found files surroundings asked = Settings.ofEnvironment surroundings.environment := by
  rw [found, h]
  rfl

/-- Settings without a file are those of the variables, with the store that the arguments name. The
variable for the store is read a second time, to the same effect. -/
theorem loaded_of_environment
    (hasked : Arguments.read surroundings.bare.environment arguments = .ok asked)
    (hfile : readsFile files surroundings asked = false) {set : Settings}
    (hset : Settings.ofEnvironment surroundings.environment = .ok set) :
    loaded files surroundings arguments = .ok (set.withStore asked.store).checked := by
  have hfound : found files surroundings asked = .ok set :=
    (found_of_not_readsFile hfile).trans hset
  rw [loaded_of_asked hasked, withStoreVariable, hfound]
  cases hvariable : surroundings.environment storeVariable with
  | none => rfl
  | some text =>
    have hparsed := Settings.store_of_ofEnvironment hset hvariable
    dsimp only
    split
    · rfl
    · rw [hparsed]
      calc
        Except.ok (settle (asked.store.or (some set.store)) (.ok set))
            = Except.ok ((set.withStore (some set.store)).withStore asked.store).checked := by
              rw [Settings.withStore_withStore]
              rfl
        _ = .ok (set.withStore asked.store).checked := rfl

theorem loaded_eq_ok_iff_of_environment
    (hasked : Arguments.read surroundings.bare.environment arguments = .ok asked)
    (hfile : readsFile files surroundings asked = false) (settings : Settings) :
    loaded files surroundings arguments = .ok (.ok settings) ↔
      ∃ set, Settings.ofEnvironment surroundings.environment = .ok set ∧
        settings = set.withStore asked.store ∧ settings.validate = .ok () := by
  cases hset : Settings.ofEnvironment surroundings.environment with
  | error error =>
    rw [loaded_of_asked hasked, found_of_not_readsFile hfile, hset]
    constructor
    · intro h
      rcases Outcome.map_eq_ok_iff.mp h with ⟨_, -, herror⟩
      cases herror
    · rintro ⟨_, h, -⟩
      cases h
  | ok set =>
    rw [loaded_of_environment hasked hfile hset, Except.ok.injEq, Settings.checked_eq_ok_iff]
    constructor
    · rintro ⟨rfl, hvalid⟩
      exact ⟨set, rfl, rfl, hvalid⟩
    · rintro ⟨_, ⟨⟩, rfl, hvalid⟩
      exact ⟨rfl, hvalid⟩

/-! ## What comes of settings -/

/-- What a command does, with something else done under its settings. -/
def performOn (carryOut : Settings → Command → FileDialogue Report) (surroundings : Surroundings)
    (invocation : Invocation) : FileDialogue Report := do
  match ← effectiveSettings surroundings invocation with
  | .error error => return .failed [] error.message
  | .ok settings => carryOut settings invocation.command

/-- The program, with something else done under the settings of a command. -/
def programOn (carryOut : Settings → Command → FileDialogue Report) (surroundings : Surroundings)
    (arguments : List String) : FileDialogue (Nat × Report) := do
  match Arguments.read surroundings.environment arguments with
  | .error .version => return (0, .success [versionLine])
  | .error .help => return (0, .success [])
  | .error .misuse => return (2, .success [])
  | .ok invocation =>
    let report ← performOn carryOut surroundings invocation
    return (report.exitCode, report)

theorem program_eq (surroundings : Surroundings) :
    program surroundings = programOn (runOnStore surroundings) surroundings := rfl

/-- Settings that cannot work end a command, whatever would have been done under them. -/
theorem answeredBy_programOn_of_error
    (hread : Arguments.read surroundings.environment arguments = .ok invocation)
    {settings : Settings} (hfound : found files surroundings invocation = .ok settings)
    {error : SettingsError} (hrefused : (settings.withStore invocation.store).validate = .error error)
    (carryOut : Settings → Command → FileDialogue Report) :
    answeredBy files (programOn carryOut surroundings arguments) =
      (1, .failed [] error.message) := by
  have heffective : answeredBy files (effectiveSettings surroundings invocation) = .error error := by
    rw [answeredBy_effectiveSettings, hfound]
    exact Settings.checked_of_error hrefused
  simp only [programOn, hread, performOn, answeredBy_bind, heffective]
  rfl

/-- Which settings a command runs under. Those of a file depend on no variable but the one for the
store, and they are the file's exactly when that one makes no difference. Those without a file are
what the variables say. A store that the arguments name goes before both, and settings that cannot
work end the command before anything is done under them. -/
theorem settings_precedence (files : Files) (surroundings : Surroundings)
    (arguments : List String) :
    (∀ stop, Arguments.read surroundings.bare.environment arguments = .error stop →
      loaded files surroundings arguments = .error stop) ∧
    (∀ asked, Arguments.read surroundings.bare.environment arguments = .ok asked →
      readsFile files surroundings asked = true →
        loaded files surroundings.bare arguments = .ok (settle asked.store
            (Settings.ofFile (files.read (settingsFile surroundings asked)))) ∧
          (∀ other : Surroundings, other.bare = surroundings.bare →
            other.environment storeVariable = surroundings.environment storeVariable →
              loaded files other arguments = loaded files surroundings arguments) ∧
          (loaded files surroundings arguments = loaded files surroundings.bare arguments ↔
            StoreVariableIsIdle files surroundings arguments asked)) ∧
    (∀ asked, Arguments.read surroundings.bare.environment arguments = .ok asked →
      readsFile files surroundings asked = false →
        ∀ settings, loaded files surroundings arguments = .ok (.ok settings) ↔
          ∃ set, Settings.ofEnvironment surroundings.environment = .ok set ∧
            settings = set.withStore asked.store ∧ settings.validate = .ok ()) ∧
    program surroundings = programOn (runOnStore surroundings) surroundings ∧
    ∀ invocation settings error,
      Arguments.read surroundings.environment arguments = .ok invocation →
      found files surroundings invocation = .ok settings →
      (settings.withStore invocation.store).validate = .error error →
      ∀ carryOut, answeredBy files (programOn carryOut surroundings arguments) =
        (1, .failed [] error.message) := by
  refine ⟨?_, fun asked hasked hfile => ⟨?_, ?_, loaded_eq_bare_iff hasked hfile⟩,
    fun asked hasked hfile => loaded_eq_ok_iff_of_environment hasked hfile, program_eq surroundings,
    fun _ _ _ hread hfound => answeredBy_programOn_of_error hread hfound⟩
  · intro stop hstop
    have hread : Arguments.read surroundings.environment arguments = .error stop := by
      rw [Arguments.read_eq]
      change Arguments.read surroundings.bare.environment arguments >>= _ = _
      rw [hstop, Outcome.error_bind]
    rw [loaded, hread, Outcome.map_error]
  · rw [loaded_bare hasked hfile, found, if_pos hfile]
  · intro other hbare hvariable
    have hother : readsFile files other asked = true := by
      rw [← readsFile_bare, hbare, readsFile_bare, hfile]
    have hasked' : Arguments.read other.bare.environment arguments = .ok asked := by
      rw [hbare, hasked]
    have hfound : found files other asked = found files surroundings asked := by
      rw [← found_bare hother, hbare, found_bare hfile]
    rw [loaded_of_asked hasked', loaded_of_asked hasked, hfound]
    simp only [withStoreVariable, hvariable]

/-- Files that all hold one text, or that are not there. -/
def sampleFiles (text? : Option String) : Files
  | .isPresent _ => text?.isSome
  | .read _ => (text?.map Utf8.encode).elim (.error .notFound) .ok
  | call => call.refusal .notFound

/-- Surroundings with at most one variable, the one for the store. -/
def sampleSurroundings (store? : Option String) : Surroundings where
  environment name := if name = storeVariable then store? else none
  workingDirectory := []
  supply := ⟨.ofSeed [], ⟨0, 0⟩⟩

theorem sampleSurroundings_bare (store? : Option String) :
    (sampleSurroundings store?).bare = sampleSurroundings none := by
  have henvironment : (sampleSurroundings store?).environment.bare =
      (sampleSurroundings none).environment := by
    funext name
    rw [Environment.bare]
    split
    · exact (ite_self _).symm
    · next hname =>
      have hne : name ≠ storeVariable := by
        rintro rfl
        exact hname List.mem_cons_self
      exact (if_neg hne).trans (if_neg hne).symm
  rw [Surroundings.bare, henvironment]
  rfl

theorem readsFile_sampleFiles (text : String) (surroundings : Surroundings)
    (invocation : Invocation) :
    readsFile (sampleFiles (some text)) surroundings invocation = true :=
  Bool.or_true _

theorem read_sampleFiles (text : String) (path : Path) :
    (sampleFiles (some text)).read path = .ok (Utf8.encode text) := rfl

theorem found_sampleFiles (text : String) (surroundings : Surroundings) (invocation : Invocation) :
    found (sampleFiles (some text)) surroundings invocation =
      Settings.ofFile (.ok (Utf8.encode text)) := by
  rw [found, if_pos (readsFile_sampleFiles text surroundings invocation), read_sampleFiles]

/-- A file that names the store of files, under a variable that names the one in memory; no file
under that variable; and a file whose settings cannot work. -/
theorem sample_settings_precedence :
    let store := sampleFiles (some "store: file")
    let wait := sampleFiles (some "signing:\n  blocking_timeout_secs: 0")
    let memory := sampleSurroundings (some "memory")
    loaded store memory.bare ["status"] = .ok (.ok Settings.standard) ∧
      loaded store memory ["status"] ≠ loaded store memory.bare ["status"] ∧
      loaded (sampleFiles none) memory ["status"] =
        .ok (.ok { Settings.standard with store := .memory }) ∧
      ∀ carryOut, answeredBy wait (programOn carryOut memory ["status"]) =
        (1, .failed [] "Invalid configuration: blocking_timeout_secs must be at least 1") := by
  intro store wait memory
  let asked : Invocation := ⟨none, none, .status⟩
  have hasked : Arguments.read memory.bare.environment ["status"] = .ok asked := by
    rw [sampleSurroundings_bare]
    rfl
  have hread : Arguments.read memory.environment ["status"] =
      .ok { asked with store := some .memory } := rfl
  have hstore : Settings.ofFile (.ok (Utf8.encode "store: file")) = .ok Settings.standard :=
    Outcome.toOption_eq_some_iff.mp (by decide +kernel)
  have hwait : Settings.ofFile (.ok (Utf8.encode "signing:\n  blocking_timeout_secs: 0")) =
      .ok { Settings.standard with timeoutSeconds := 0 } :=
    Outcome.toOption_eq_some_iff.mp (by decide +kernel)
  have hfound := (found_sampleFiles _ memory { asked with store := some .memory }).trans hwait
  rcases (settings_precedence store memory ["status"]).2.1 asked hasked
    (readsFile_sampleFiles _ memory asked) with ⟨hbare, -, hidle⟩
  rw [read_sampleFiles, hstore] at hbare
  have hloaded : loaded store memory.bare ["status"] = .ok (.ok Settings.standard) := hbare
  refine ⟨hloaded, ?_, ?_, ?_⟩
  · intro hsame
    rcases hidle.mp hsame "memory" rfl with htwice | ⟨kind, hkind, hgiven | hnames⟩
    · exact absurd htwice (by decide)
    · cases hgiven
    · have hmemory : StoreKind.parse "memory" = .ok .memory := rfl
      rw [← Except.ok.inj (hmemory.symm.trans hkind)] at hnames
      cases hnames _ hloaded
  · exact ((settings_precedence (sampleFiles none) memory ["status"]).2.2.1 asked hasked rfl _).mpr
      ⟨_, rfl, rfl, rfl⟩
  · exact (settings_precedence wait memory ["status"]).2.2.2.2 _ _ _ hread hfound rfl

/-- A variable goes before the settings of a file. -/
theorem not_forall_loaded_eq :
    ¬ ∀ (files : Files) (surroundings other : Surroundings) (arguments : List String)
        (asked : Invocation), other.bare = surroundings.bare →
      Arguments.read surroundings.bare.environment arguments = .ok asked →
        readsFile files surroundings asked = true →
          loaded files other arguments = loaded files surroundings arguments := by
  intro h
  have hbare := sampleSurroundings_bare
  have hsame := h (sampleFiles (some "store: file")) (sampleSurroundings none)
    (sampleSurroundings (some "memory")) ["status"] ⟨none, none, .status⟩
    ((hbare _).trans (hbare _).symm) (by rw [hbare]; rfl) (readsFile_sampleFiles _ _ _)
  have hstore : Settings.ofFile (.ok (Utf8.encode "store: file")) = .ok Settings.standard :=
    Outcome.toOption_eq_some_iff.mp (by decide +kernel)
  have hmemory : Arguments.read (sampleSurroundings (some "memory")).environment ["status"] =
      .ok ⟨none, some .memory, .status⟩ := rfl
  have hnone : Arguments.read (sampleSurroundings none).environment ["status"] =
      .ok ⟨none, none, .status⟩ := rfl
  rw [loaded_eq, loaded_eq, hmemory, hnone] at hsame
  simp only [Outcome.map_ok, found_sampleFiles, hstore] at hsame
  cases hsame

end CommandLine
end Possession
