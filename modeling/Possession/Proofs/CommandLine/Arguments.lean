import Possession.CommandLine.Arguments
import Possession.Proofs.Outcome

/-!
# What arguments take from the environment

Some options have a variable to stand in for them, and one of these variables is read a second time:
the one that names the kind of store, which is also a setting. So what a list of arguments asks for
depends on the settings that variables hold, and this module says how far.

* `Arguments.OptionsRead` is what reading options does to a list of arguments.
* `Arguments.Parts` are the arguments taken apart before a variable is looked at, and
  `Parts.complete` is what the variables make of them.
* `Arguments.read_eq` says what the variables that hold settings do to a reading: only the one for
  the store does anything, and it does what an option for the store would do.
-/

namespace Possession

/-! ## Variables that hold settings -/

namespace Settings

/-- The variables that hold settings. -/
def settingVariables : List String :=
  [storeVariable, "DEVICE_POP_KEY_DIR", "DEVICE_POP_SIGNING_ALG", "DEVICE_POP_PREFER_ISOLATION",
    "DEVICE_POP_TIMEOUT_SECS"]

/-- The same environment, but no variable in it holds a setting. -/
def Environment.bare (environment : Environment) : Environment := fun name =>
  if name ∈ settingVariables then none else environment name

theorem Environment.bare_eq_of_notMem {environment : Environment} {name : String}
    (h : name ∉ settingVariables) : environment.bare name = environment name :=
  if_neg h

theorem Environment.bare_storeVariable (environment : Environment) :
    environment.bare storeVariable = none :=
  if_pos List.mem_cons_self

end Settings

namespace Arguments

open Settings (Environment storeVariable)

variable {environment other : Environment} {arguments rest : List String}
  {specs : List OptionSpec} {spec : OptionSpec} {given after : Given} {name : String}

/-! ## Options that are given -/

/-- Whether an argument gives the option of a name. -/
def gives (name argument : String) : Bool :=
  match argument.toList with
  | '-' :: '-' :: chars => (splitOption chars).1 == name
  | _ => false

/-- The name of the option for the kind of store. -/
def storeName : String := "store"

theorem storeName_ne : storeName ≠ "" := by decide

/-- Whether an option takes a value, or no value. -/
def OptionSpec.Takes (spec : OptionSpec) : Option String → Prop
  | none => spec.isValue = none
  | some text => ∃ isValue, spec.isValue = some isValue ∧ isValue text = true

/-- What reading options does: the options given before and the arguments, then the options given
after and the arguments left. -/
inductive OptionsRead (specs : List OptionSpec) :
    Given → List String → Given → List String → Prop where
  | stop (given : Given) (arguments : List String) : OptionsRead specs given arguments given arguments
  | closed (given : Given) : OptionsRead specs given ["--"] given []
  | option {given after : Given} {argument name : String} {arguments left rest : List String}
      {spec : OptionSpec} {value : Option String} :
    (∀ other, gives other argument = (name == other)) →
      specs.find? (fun spec => spec.name == name) = some spec → given.has name = false →
      spec.Takes value →
      (left = arguments ∨ ∃ text, arguments = text :: left ∧ isOption text = false) →
      OptionsRead specs ((name, value) :: given) left after rest →
        OptionsRead specs given (argument :: arguments) after rest

/-- A value is of the kind that its option takes, and it is no option itself. -/
theorem takes_of_takeOption {attached value : Option String} {left : List String}
    (h : takeOption spec attached rest = .ok (value, left)) :
    spec.Takes value ∧ (left = rest ∨ ∃ text, rest = text :: left ∧ isOption text = false) := by
  cases hvalue : spec.isValue with
  | none =>
    cases attached with
    | none =>
      simp only [takeOption, hvalue, Except.ok.injEq, Prod.mk.injEq] at h
      obtain ⟨rfl, rfl⟩ := h
      exact ⟨hvalue, .inl rfl⟩
    | some text => simp [takeOption, hvalue] at h
  | some isValue =>
    cases attached with
    | some text =>
      simp only [takeOption, hvalue] at h
      split at h
      · next htext =>
        cases h
        exact ⟨⟨isValue, hvalue, htext⟩, .inl rfl⟩
      · cases h
    | none =>
      cases rest with
      | nil => simp [takeOption, hvalue] at h
      | cons text rest =>
        simp only [takeOption, hvalue] at h
        split at h
        · next htext =>
          cases h
          rw [Bool.and_eq_true, Bool.not_eq_true'] at htext
          exact ⟨⟨isValue, hvalue, htext.2⟩, .inr ⟨text, rfl, htext.1⟩⟩
        · cases h

theorem optionsRead_of_readOptions {versioned : Bool} {fuel : Nat}
    (h : readOptions specs versioned fuel given arguments = .ok (after, rest)) :
    OptionsRead specs given arguments after rest := by
  induction fuel generalizing given arguments with
  | zero => cases h
  | succ fuel ih =>
    cases arguments with
    | nil =>
      cases h
      exact .stop _ _
    | cons argument arguments =>
      rw [readOptions] at h
      split at h
      · next hchars =>
        -- two hyphens close the options, and nothing may stand behind them
        split at h
        · next hempty =>
          cases h
          rw [List.isEmpty_iff] at hempty
          have hargument : argument = "--" := String.toList_inj.mp hchars
          rw [hempty, hargument]
          exact .closed _
        · cases h
      · next chars _ hchars =>
        have hgives (other : String) : gives other argument = ((splitOption chars).1 == other) := by
          simp only [gives, hchars]
        dsimp only at h
        split at h
        · next spec hfound =>
          split at h
          · cases h
          · next hfresh =>
            split at h
            · next value left htaken =>
              rcases takes_of_takeOption htaken with ⟨htakes, hleft⟩
              exact .option hgives hfound (by simpa using hfresh) htakes hleft (ih h)
            · cases h
        · split at h
          · cases h
          · split at h
            · cases h
            · split at h <;> cases h
      · cases h
      · cases h
        exact .stop _ _

/-! ## What is read off -/

theorem has_cons (name other : String) (value : Option String) (given : Given) :
    Given.has ((name, value) :: given) other = (other == name || given.has other) := by
  rw [Given.has, Given.has, List.lookup_cons]
  cases other == name <;> rfl

theorem has_cons_of_ne {other : String} (h : other ≠ name) (value : Option String) (given : Given) :
    Given.has ((name, value) :: given) other = given.has other := by
  have hne : (other == name) = false := by simpa using h
  rw [has_cons, hne, Bool.false_or]

theorem value?_cons_of_ne {other : String} (h : other ≠ name) (value : Option String)
    (given : Given) : Given.value? ((name, value) :: given) other = given.value? other := by
  have hne : (other == name) = false := by simpa using h
  rw [Given.value?, Given.value?, List.lookup_cons, hne]

theorem gives_of_not_isOption {text : String} (h : isOption text = false) (name : String) :
    gives name text = false := by
  unfold isOption at h
  unfold gives
  split at h
  · cases h
  · next hother =>
    split
    · next chars hchars => exact absurd hchars (hother '-' chars)
    · rfl

/-- An option is given as often as it was written, which is at most once. -/
theorem OptionsRead.countP_gives (h : OptionsRead specs given arguments after rest)
    (hname : name ≠ "") :
    arguments.countP (gives name) + (given.has name).toNat =
      rest.countP (gives name) + (after.has name).toNat := by
  induction h with
  | stop given arguments => rfl
  | closed given =>
    have hclosed : gives name "--" = false := by simpa [gives, splitOption] using hname.symm
    simp [hclosed]
  | @option given after argument written arguments left rest spec value hgives _ hfresh _ hleft _ ih =>
    have hcount : arguments.countP (gives name) = left.countP (gives name) := by
      rcases hleft with rfl | ⟨text, rfl, htext⟩
      · rfl
      · rw [List.countP_cons, gives_of_not_isOption htext]
        rfl
    rw [List.countP_cons, hgives, hcount]
    rw [has_cons] at ih
    by_cases hsame : written = name
    · subst hsame
      simp only [beq_self_eq_true, Bool.true_or, hfresh] at ih ⊢
      exact ih
    · have hne : (written == name) = false := by simpa using hsame
      have hne' : (name == written) = false := by simpa using Ne.symm hsame
      simp only [hne', Bool.false_or] at ih
      simpa [hne] using ih

/-- What is given is one of the options, with a value that it takes. -/
theorem OptionsRead.exists_spec (h : OptionsRead specs given arguments after rest)
    (hgiven : ∀ name value, (name, value) ∈ given →
      ∃ spec, specs.find? (fun spec => spec.name == name) = some spec ∧ spec.Takes value) :
    ∀ name value, (name, value) ∈ after →
      ∃ spec, specs.find? (fun spec => spec.name == name) = some spec ∧ spec.Takes value := by
  induction h with
  | stop given arguments => exact hgiven
  | closed given => exact hgiven
  | option _ hfound _ htakes _ _ ih =>
    apply ih
    intro name value hmem
    rcases List.mem_cons.mp hmem with hsame | hmem
    · cases hsame
      exact ⟨_, hfound, htakes⟩
    · exact hgiven name value hmem

/-- The option for the kind of store. -/
def storeOption : OptionSpec :=
  ⟨storeName, some fun text => (StoreKind.parse text).toOption.isSome, some storeVariable⟩

/-- A store that is given is the name of a kind. -/
theorem exists_store_of_has
    (hstore : specs.find? (fun spec => spec.name == storeName) = some storeOption)
    (h : OptionsRead specs [] arguments after rest) (hhas : after.has storeName = true) :
    ∃ text kind, after.value? storeName = some text ∧ StoreKind.parse text = .ok kind := by
  rw [Given.has, Option.isSome_iff_exists] at hhas
  rcases hhas with ⟨value, hlookup⟩
  have hmem : (storeName, value) ∈ after := by
    have hfound := List.lookup_eq_some_iff.mp hlookup
    rcases hfound with ⟨front, back, rfl, -⟩
    exact List.mem_append_right _ List.mem_cons_self
  rcases h.exists_spec (fun _ _ hnone => nomatch hnone) _ _ hmem with ⟨spec, hspec, htakes⟩
  rw [← Option.some.inj (hstore.symm.trans hspec)] at htakes
  cases value with
  | none => cases htakes
  | some text =>
    rcases htakes with ⟨isValue, hisValue, htext⟩
    rw [← Option.some.inj hisValue] at htext
    rcases Option.isSome_iff_exists.mp htext with ⟨kind, hkind⟩
    refine ⟨text, kind, ?_, ?_⟩
    · rw [Given.value?, hlookup]
      rfl
    · cases hparsed : StoreKind.parse text with
      | ok parsed =>
        rw [hparsed] at hkind
        cases hkind
        rfl
      | error error =>
        rw [hparsed] at hkind
        cases hkind

/-! ## Commands -/

/-- What every command leaves to the options that hold for all of them. -/
structure CommandSpec.LeavesStore (command : CommandSpec) : Prop where
  name : gives storeName command.name = false
  options : ∀ option ∈ command.options, (option.name == storeName) = false
  standIns : ∀ option ∈ command.options, ∀ name ∈ option.standIn, name ∉ Settings.settingVariables
  ofGiven? : ∀ value given, command.ofGiven? ((storeName, value) :: given) = command.ofGiven? given

variable {command : CommandSpec}

theorem leavesStore_of_mem (h : command ∈ commands) : command.LeavesStore := by
  simp only [commands, List.mem_cons, List.not_mem_nil, or_false] at h
  rcases h with rfl | rfl | rfl | rfl | rfl | rfl | rfl | rfl | rfl
  all_goals refine ⟨by decide, by decide, by decide, fun value given => ?_⟩
  -- What a command is depends on its own options.
  · simp (disch := decide) only [has_cons_of_ne]
  · rfl
  · rfl
  · rfl
  · simp (disch := decide) only [publicKeyOf?, value?_cons_of_ne]
  · simp (disch := decide) only [mintOf?, value?_cons_of_ne]
  · simp (disch := decide) only [signOf?, value?_cons_of_ne]
  · simp (disch := decide) only [verifyOf?, value?_cons_of_ne]
  · simp (disch := decide) only [has_cons_of_ne]

/-! ## Variables -/

theorem addVariables_append (environment : Environment) (specs more : List OptionSpec)
    (given : Given) :
    addVariables environment (specs ++ more) given =
      addVariables environment specs given >>= addVariables environment more := by
  induction specs generalizing given with
  | nil => rfl
  | cons spec specs ih =>
    rw [List.cons_append, addVariables, addVariables]
    split
    · split
      · exact ih given
      · split
        · exact ih _
        · rfl
    · exact ih given

/-- Only the variables that stand in for the options are looked at. -/
theorem addVariables_congr
    (h : ∀ option ∈ specs, ∀ name ∈ option.standIn, environment name = other name)
    (given : Given) : addVariables environment specs given = addVariables other specs given := by
  induction specs generalizing given with
  | nil => rfl
  | cons spec specs ih =>
    have htail := ih fun option hoption => h option (List.mem_cons_of_mem spec hoption)
    have hhead : spec.standIn.bind environment = spec.standIn.bind other := by
      cases hvariable : spec.standIn with
      | none => rfl
      | some name => exact h spec List.mem_cons_self name hvariable
    rw [addVariables, addVariables, hhead]
    simp only [htail]

/-- No variable gives an option that is not there. -/
theorem has_of_addVariables (h : addVariables environment specs given = .ok after)
    (hname : ∀ option ∈ specs, (option.name == name) = false) : after.has name = given.has name := by
  induction specs generalizing given with
  | nil =>
    cases h
    rfl
  | cons spec specs ih =>
    have htail : ∀ option ∈ specs, (option.name == name) = false :=
      fun option hoption => hname option (List.mem_cons_of_mem spec hoption)
    have hne : name ≠ spec.name := by
      have hhead := hname spec List.mem_cons_self
      exact fun hsame => absurd hsame.symm (by simpa using hhead)
    rw [addVariables] at h
    split at h
    · split at h
      · exact ih h htail
      · split at h
        · rw [ih h htail, has_cons_of_ne hne]
        · cases h
    · exact ih h htail

theorem addVariables_skip (h : spec.standIn = none) (given : Given) :
    addVariables environment (spec :: specs) given = addVariables environment specs given := by
  simp [addVariables, h]

/-- Of the options for every command, only the one for the store has a variable. -/
theorem addVariables_common (environment : Environment) (given : Given) :
    addVariables environment commonOptions given = match environment storeVariable with
      | none => .ok given
      | some text =>
        if given.has storeName then .ok given
        else if (StoreKind.parse text).toOption.isSome then .ok ((storeName, some text) :: given)
        else .error .misuse := by
  have hcommon : commonOptions = [⟨"config", some fun text => !text.isEmpty, none⟩, storeOption] :=
    rfl
  have hvariable : storeOption.standIn.bind environment = environment storeVariable := rfl
  have hisValue : storeOption.isValue = some fun text => (StoreKind.parse text).toOption.isSome :=
    rfl
  rw [hcommon, addVariables_skip rfl, addVariables, hvariable, hisValue]
  cases environment storeVariable with
  | none => rfl
  | some text => rfl

/-! ## Arguments taken apart -/

/-- The options in front of a command, the command, and the options behind it. -/
structure Parts where
  before : Given
  command : CommandSpec
  behind : Given

/-- Takes arguments apart. No variable is looked at for it. -/
def parts (arguments : List String) : Except Stop Parts := do
  let fuel := arguments.length + 1
  let (before, rest) ← readOptions commonOptions true fuel [] arguments
  match rest with
  | [] => throw .misuse
  | name :: rest =>
    match commands.find? fun command => command.name == name with
    | none => throw (if name = helpName then stopOfHelp rest else .misuse)
    | some command =>
      let (behind, rest) ← readOptions (command.options ++ commonOptions) false fuel [] rest
      if !rest.isEmpty then throw .misuse
      return ⟨before, command, behind⟩

namespace Parts

/-- What is asked for, given what the options in front of the command come to with the variables. -/
def asked (parts : Parts) (common : Given) (command : Command) : Invocation where
  settingsFile := commonValue? parts.before parts.behind common "config"
  store := (commonValue? parts.before parts.behind common storeName).bind fun text =>
    (StoreKind.parse text).toOption
  command := command

/-- What is asked for, if nothing that the command needs is missing. -/
def conclude (parts : Parts) (given common : Given) : Except Stop Invocation :=
  match parts.command.ofGiven? given with
  | none => .error .misuse
  | some command => .ok (parts.asked common command)

/-- What the variables make of arguments that were taken apart. -/
def complete (environment : Environment) (parts : Parts) : Except Stop Invocation := do
  let own ← addVariables environment parts.command.options parts.behind
  let given ← addVariables environment commonOptions own
  let common ← addVariables environment commonOptions parts.before
  parts.conclude given common

end Parts

/-- Arguments are taken apart, and then the variables are looked at. -/
theorem read_eq_complete (environment : Environment) (arguments : List String) :
    read environment arguments = parts arguments >>= Parts.complete environment := by
  rw [read, parts]
  cases readOptions commonOptions true (arguments.length + 1) [] arguments with
  | error stop => rfl
  | ok read =>
    rcases read with ⟨before, _ | ⟨name, rest⟩⟩
    · rfl
    · simp only [Outcome.ok_bind]
      cases commands.find? fun command => command.name == name with
      | none => rfl
      | some command =>
        dsimp only
        cases readOptions (command.options ++ commonOptions) false (arguments.length + 1) [] rest with
        | error stop => rfl
        | ok read =>
          rcases read with ⟨behind, rest⟩
          simp only [Outcome.ok_bind]
          split
          · rfl
          · simp only [Outcome.ok_bind, Outcome.pure_eq, Parts.complete, addVariables_append,
              bind_assoc]
            rfl

/-! ## The variable for the store -/

/-- Whether a store that is given is the name of a kind. -/
def NamesStore (given : Given) : Prop :=
  given.has storeName = true →
    ∃ text kind, given.value? storeName = some text ∧ StoreKind.parse text = .ok kind

/-- What is known of the parts of a list of arguments. -/
structure Parts.TakenFrom (arguments : List String) (parts : Parts) : Prop where
  command : parts.command.LeavesStore
  before : NamesStore parts.before
  behind : NamesStore parts.behind
  count : arguments.countP (gives storeName) =
    (parts.before.has storeName).toNat + (parts.behind.has storeName).toNat

/-- How arguments are taken apart: options are read up to the name of a command, and behind it up to
the end. -/
theorem exists_of_parts {apart : Parts} (h : parts arguments = .ok apart) :
    ∃ name rest fuel, readOptions commonOptions true fuel [] arguments =
        .ok (apart.before, name :: rest) ∧
      commands.find? (fun command => command.name == name) = some apart.command ∧
      readOptions (apart.command.options ++ commonOptions) false fuel [] rest =
        .ok (apart.behind, []) := by
  simp only [parts] at h
  rcases Outcome.bind_eq_ok_iff.mp h with ⟨⟨before, _ | ⟨name, rest⟩⟩, hbefore, h⟩
  · cases h
  dsimp only at h
  split at h
  · cases h
  · next command hcommand =>
    rcases Outcome.bind_eq_ok_iff.mp h with ⟨⟨behind, left⟩, hbehind, h⟩
    dsimp only at h
    split at h
    · cases h
    · next hempty =>
      cases h
      have hleft : left = [] := by simpa using hempty
      rw [hleft] at hbehind
      exact ⟨name, rest, _, hbefore, hcommand, hbehind⟩

theorem takenFrom_of_parts {apart : Parts} (h : parts arguments = .ok apart) :
    apart.TakenFrom arguments := by
  rcases exists_of_parts h with ⟨name, rest, fuel, hbefore, hcommand, hbehind⟩
  have hfront := optionsRead_of_readOptions hbefore
  have hback := optionsRead_of_readOptions hbehind
  have hleaves := leavesStore_of_mem (List.mem_of_find?_eq_some hcommand)
  have hstore : commonOptions.find? (fun spec => spec.name == storeName) = some storeOption := rfl
  have hown : apart.command.options.find? (fun spec => spec.name == storeName) = none :=
    List.find?_eq_none.mpr fun option hoption => by simp [hleaves.options option hoption]
  have hboth : (apart.command.options ++ commonOptions).find?
      (fun spec => spec.name == storeName) = some storeOption := by
    rw [List.find?_append, hown, Option.none_or, hstore]
  have hname : gives storeName name = false := by
    have hsame : apart.command.name = name := by simpa using List.find?_some hcommand
    exact hsame ▸ hleaves.name
  refine ⟨hleaves, exists_store_of_has hstore hfront, exists_store_of_has hboth hback, ?_⟩
  have hnone (other : String) : Given.has [] other = false := rfl
  have hcountFront := hfront.countP_gives storeName_ne
  have hcountBack := hback.countP_gives storeName_ne
  rw [List.countP_cons, hname, hnone] at hcountFront
  rw [List.countP_nil, hnone] at hcountBack
  calc
    arguments.countP (gives storeName)
        = rest.countP (gives storeName) + (apart.before.has storeName).toNat := hcountFront
    _ = (apart.behind.has storeName).toNat + (apart.before.has storeName).toNat :=
      congrArg (· + _) (hcountBack.trans (Nat.zero_add _))
    _ = (apart.before.has storeName).toNat + (apart.behind.has storeName).toNat := Nat.add_comm _ _

theorem value?_of_not_has {given : Given} (h : given.has name = false) : given.value? name = none := by
  rw [Given.has, Option.isSome_eq_false_iff, Option.isNone_iff_eq_none] at h
  rw [Given.value?, h]
  rfl

/-- What the variable for the store adds to what is asked for: it stands in for the option wherever
that is not given, which is in front of the command and behind it. -/
def withStoreVariable (environment : Environment) (arguments : List String) (asked : Invocation) :
    Except Stop Invocation :=
  match environment storeVariable with
  | none => .ok asked
  | some text =>
    if 2 ≤ arguments.countP (gives storeName) then .ok asked
    else match StoreKind.parse text with
      | .ok kind => .ok { asked with store := asked.store.or (some kind) }
      | .error _ => .error .misuse

namespace Parts

variable {apart : Parts}

/-- The variable asks for a store only if no option does. -/
theorem TakenFrom.asked_cons (h : apart.TakenFrom arguments)
    (hbefore : apart.before.has storeName = false) {text : String} {kind : StoreKind}
    (hkind : StoreKind.parse text = .ok kind) (command : Command) :
    apart.asked ((storeName, some text) :: apart.before) command =
      { apart.asked apart.before command with
        store := (apart.asked apart.before command).store.or (some kind) } := by
  have hconfig : Given.value? ((storeName, some text) :: apart.before) "config" =
      apart.before.value? "config" := value?_cons_of_ne (by decide) _ _
  have hstore : Given.value? ((storeName, some text) :: apart.before) storeName = some text := by
    rw [Given.value?, List.lookup_cons, beq_self_eq_true]
    rfl
  simp only [asked, commonValue?, hconfig, hstore, value?_of_not_has hbefore]
  cases hbehind : apart.behind.has storeName with
  | false =>
    rw [value?_of_not_has hbehind]
    simp [hkind, Except.toOption]
  | true =>
    rcases h.behind hbehind with ⟨given, other, hvalue, hother⟩
    rw [hvalue]
    simp [hother, Except.toOption]

/-- A store that an option asks for is not asked for by the variable. -/
theorem TakenFrom.asked_before (h : apart.TakenFrom arguments)
    (hbefore : apart.before.has storeName = true) (kind : StoreKind) (command : Command) :
    apart.asked apart.before command =
      { apart.asked apart.before command with
        store := (apart.asked apart.before command).store.or (some kind) } := by
  rcases h.before hbefore with ⟨text, other, hvalue, hother⟩
  simp only [asked, commonValue?, hvalue]
  cases hbehind : apart.behind.has storeName with
  | false =>
    rw [value?_of_not_has hbehind]
    simp [hother, Except.toOption]
  | true =>
    rcases h.behind hbehind with ⟨given, last, hgiven, hlast⟩
    rw [hgiven]
    simp [hlast, Except.toOption]

/-- What the option and the variable for the store come to in one place, when the variable is set. -/
theorem addVariables_common_of_some {text : String} (h : environment storeVariable = some text)
    (given : Given) : addVariables environment commonOptions given =
      if given.has storeName then .ok given
      else if (StoreKind.parse text).toOption.isSome then .ok ((storeName, some text) :: given)
      else .error .misuse := by
  rw [addVariables_common, h]

theorem TakenFrom.conclude_cons (h : apart.TakenFrom arguments) (value : Option String)
    (given common : Given) :
    apart.conclude ((storeName, value) :: given) common = apart.conclude given common := by
  rw [conclude, h.command.ofGiven?]
  rfl

/-- Where the option is given in both places, the variable is not looked at. -/
theorem TakenFrom.has_of_twice (h : apart.TakenFrom arguments)
    (htwice : 2 ≤ arguments.countP (gives storeName)) :
    apart.before.has storeName = true ∧ apart.behind.has storeName = true := by
  have hcount := h.count
  have hbefore := Bool.toNat_le (apart.before.has storeName)
  have hbehind := Bool.toNat_le (apart.behind.has storeName)
  exact ⟨Bool.toNat_eq_one.mp (by omega), Bool.toNat_eq_one.mp (by omega)⟩

theorem TakenFrom.not_both (h : apart.TakenFrom arguments)
    (honce : ¬ 2 ≤ arguments.countP (gives storeName))
    (hbehind : apart.behind.has storeName = true) : apart.before.has storeName = false := by
  have hcount := h.count
  rw [hbehind, Bool.toNat_true] at hcount
  exact Bool.toNat_eq_zero.mp (by omega)

/-- A variable that names no kind of store is a misuse where it is looked at. -/
theorem TakenFrom.complete_of_error (h : apart.TakenFrom arguments)
    (honce : ¬ 2 ≤ arguments.countP (gives storeName)) {text : String}
    (hvariable : environment storeVariable = some text)
    (hparsed : (StoreKind.parse text).toOption.isSome = false) {own : Given}
    (hown : own.has storeName = apart.behind.has storeName) :
    (do let given ← addVariables environment commonOptions own
        let common ← addVariables environment commonOptions apart.before
        apart.conclude given common) = .error .misuse := by
  rw [addVariables_common_of_some hvariable, addVariables_common_of_some hvariable, hown, hparsed]
  cases hbehind : apart.behind.has storeName with
  | false => rfl
  | true =>
    rw [h.not_both honce hbehind]
    rfl

/-- A variable that names a kind of store asks for it where no option does. -/
theorem TakenFrom.complete_of_ok (h : apart.TakenFrom arguments) {text : String} {kind : StoreKind}
    (hvariable : environment storeVariable = some text)
    (hparsed : StoreKind.parse text = .ok kind) (own : Given) :
    (do let given ← addVariables environment commonOptions own
        let common ← addVariables environment commonOptions apart.before
        apart.conclude given common) =
      apart.conclude own apart.before >>= fun asked =>
        .ok { asked with store := asked.store.or (some kind) } := by
  have hsome : (StoreKind.parse text).toOption.isSome = true := by rw [hparsed]; rfl
  have hgiven : ∃ given, addVariables environment commonOptions own = .ok given ∧
      ∀ common, apart.conclude given common = apart.conclude own common := by
    rw [addVariables_common_of_some hvariable, hsome]
    cases own.has storeName with
    | false => exact ⟨_, rfl, h.conclude_cons _ _⟩
    | true => exact ⟨_, rfl, fun _ => rfl⟩
  have hcommon : ∃ common, addVariables environment commonOptions apart.before = .ok common ∧
      ∀ command, apart.asked common command = { apart.asked apart.before command with
        store := (apart.asked apart.before command).store.or (some kind) } := by
    rw [addVariables_common_of_some hvariable, hsome]
    cases hbefore : apart.before.has storeName with
    | false => exact ⟨_, rfl, h.asked_cons hbefore hparsed⟩
    | true => exact ⟨_, rfl, h.asked_before hbefore kind⟩
  rcases hgiven with ⟨given, hgiven, hsame⟩
  rcases hcommon with ⟨common, hcommon, hasked⟩
  rw [hgiven, Outcome.ok_bind, hcommon, Outcome.ok_bind, hsame, conclude, conclude]
  cases apart.command.ofGiven? own with
  | none => rfl
  | some command =>
    dsimp only
    rw [hasked, Outcome.ok_bind]

theorem TakenFrom.complete_eq (h : apart.TakenFrom arguments) (environment : Environment) :
    apart.complete environment =
      apart.complete environment.bare >>= withStoreVariable environment arguments := by
  have hbare (given : Given) : addVariables environment.bare commonOptions given = .ok given := by
    rw [addVariables_common, Environment.bare_storeVariable]
  have hown : addVariables environment.bare apart.command.options apart.behind =
      addVariables environment apart.command.options apart.behind :=
    addVariables_congr (fun option hoption name hname =>
      Environment.bare_eq_of_notMem (h.command.standIns option hoption name hname)) _
  simp only [complete, hown, hbare, Outcome.ok_bind, bind_assoc]
  cases hgiven : addVariables environment apart.command.options apart.behind with
  | error stop => rfl
  | ok own =>
    have hhas := has_of_addVariables hgiven h.command.options
    simp only [Outcome.ok_bind]
    cases hvariable : environment storeVariable with
    | none =>
      have hcommon (given : Given) : addVariables environment commonOptions given = .ok given := by
        rw [addVariables_common, hvariable]
      have hwith : withStoreVariable environment arguments = pure := by
        funext asked
        rw [withStoreVariable, hvariable]
        rfl
      rw [hcommon, Outcome.ok_bind, hcommon, Outcome.ok_bind, hwith, bind_pure]
    | some text =>
      have hwith (asked : Invocation) : withStoreVariable environment arguments asked =
          if 2 ≤ arguments.countP (gives storeName) then .ok asked
          else match StoreKind.parse text with
            | .ok kind => .ok { asked with store := asked.store.or (some kind) }
            | .error _ => .error .misuse := by rw [withStoreVariable, hvariable]
      by_cases htwice : 2 ≤ arguments.countP (gives storeName)
      · rcases h.has_of_twice htwice with ⟨hbefore, hbehind⟩
        have hpure : withStoreVariable environment arguments = pure :=
          funext fun asked => (hwith asked).trans (if_pos htwice)
        rw [addVariables_common_of_some hvariable, addVariables_common_of_some hvariable, hhas,
          hbehind, hbefore, hpure, bind_pure]
        rfl
      · cases hparsed : StoreKind.parse text with
        | error error =>
          have hmisuse : withStoreVariable environment arguments = fun _ => .error .misuse := by
            funext asked
            rw [hwith, if_neg htwice, hparsed]
          rw [h.complete_of_error htwice hvariable (by rw [hparsed]; rfl) hhas, hmisuse, conclude]
          cases apart.command.ofGiven? own <;> rfl
        | ok kind =>
          have hkind : withStoreVariable environment arguments = fun asked =>
              .ok { asked with store := asked.store.or (some kind) } := by
            funext asked
            rw [hwith, if_neg htwice, hparsed]
          rw [h.complete_of_ok hvariable hparsed, hkind]

end Parts

/-- Of the variables that hold settings only the one for the store does anything to what is asked
for. -/
theorem read_eq (environment : Environment) (arguments : List String) :
    read environment arguments =
      read environment.bare arguments >>= withStoreVariable environment arguments := by
  rw [read_eq_complete, read_eq_complete]
  cases hparts : parts arguments with
  | error stop => rfl
  | ok apart => exact (takenFrom_of_parts hparts).complete_eq environment

end Arguments
end Possession
