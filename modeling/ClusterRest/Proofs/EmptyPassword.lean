import ClusterRest.Proofs.LoadedLayers
import ClusterRest.Proofs.ResolvedSettings

/-!
An empty variable for the password. Main statement: configurations and profiles treat it as one that
is not set, but a command line reads it as an option with an empty value, which stands over the
keyring and the profile.
-/

namespace ClusterRest

open Host (passwordVariable)

/-! ### Environments without a variable -/

namespace Variables

def without (name : String) (environment : Variables) : Variables :=
  environment.filter (·.1 ≠ name)

variable {name other : String} {environment : Variables}

theorem without_cons (entry : String × String) :
    without name (entry :: environment) =
      if entry.1 = name then without name environment else entry :: without name environment := by
  by_cases same : entry.1 = name <;> simp [without, same]

theorem find?_without (apart : other ≠ name) :
    (environment.without name).find? other = environment.find? other := by
  induction environment with
  | nil => rfl
  | cons entry environment ih =>
      simp only [find?] at ih ⊢
      rw [without_cons]
      split
      next same => rw [ih, lookup_cons, if_neg (same ▸ apart)]
      next different => rw [lookup_cons, lookup_cons, ih]

theorem find?_without_self : (environment.without name).find? name = none := by
  refine lookup_eq_none fun member => ?_
  obtain ⟨entry, kept, same⟩ := List.mem_map.mp member
  simpa [same] using (List.mem_filter.mp kept).2

end Variables

/-! ### Configurations and profiles -/

namespace Config

open Variables (path?)

/-- A variable that names no part of a configuration does not count when one is loaded. -/
theorem load_without {name first : String} {rest : List String}
    (named : path? name = some (first :: rest))
    (apart : first ∉ [defaultProfileName, defaultsName, profilesName]) (files : Files)
    (path : String) (environment : Variables) :
    load files path (environment.without name) = load files path environment := by
  refine load_filter (fun entry _ dropped => ?_) files path
  have same : entry.1 = name := by simpa using dropped
  rw [same, Variables.isForeign, named]
  simpa using apart

end Config

/-- A machine on which the variable for the password is not set. -/
def Host.withoutPassword (host : Host) : Host :=
  { host with environment := host.environment.without passwordVariable }

section

variable {host : Host}

theorem loadOrStandard_withoutPassword (files : Files) (path : String) (host : Host) :
    Config.loadOrStandard files path host.withoutPassword.environment =
      Config.loadOrStandard files path host.environment := by
  have named : Variables.path? passwordVariable = some ["password"] := by decide +kernel
  have loaded := Config.load_without named (by decide) files path host.environment
  rw [Config.loadOrStandard, Config.loadOrStandard, ← loaded]
  rfl

namespace Profile

theorem resolveUsername_withoutPassword (profile : Profile) (name : String) :
    profile.resolveUsername name host.withoutPassword = profile.resolveUsername name host := by
  have apart : "ONEFS_USERNAME" ≠ passwordVariable := by decide
  rw [resolveUsername_eq, resolveUsername_eq, Host.withoutPassword,
    Variables.find?_without apart]

/-- Where the variable does not count, the keyring is asked for the password, and then the
profile. -/
theorem resolvePassword_unset
    (unset : (host.environment.find? passwordVariable).filter (· ≠ "") = none)
    (profile : Profile) (name : String) :
    profile.resolvePassword name host =
      credential name (host.keyring (name ++ "/password") <|> profile.password) := by
  rw [resolvePassword_eq, show "ONEFS_PASSWORD" = passwordVariable from rfl, unset]
  rfl

theorem resolvePassword_withoutPassword (profile : Profile) (name : String) :
    profile.resolvePassword name host.withoutPassword =
      credential name (host.keyring (name ++ "/password") <|> profile.password) := by
  refine resolvePassword_unset ?_ profile name
  rw [Host.withoutPassword, Variables.find?_without_self]
  rfl

/-- A profile with a password finds one on every machine. -/
theorem resolvePassword_given (host : Host) (profile : Profile) (name : String) :
    ∃ found, resolvePassword { profile with password := some "" } name host = .ok found := by
  rw [resolvePassword_eq]
  cases (host.environment.find? "ONEFS_PASSWORD").filter (· ≠ "") with
  | some password => exact ⟨password, rfl⟩
  | none =>
      cases host.keyring (name ++ "/password") with
      | some password => exact ⟨password, rfl⟩
      | none => exact ⟨"", rfl⟩

/-- A profile is settled alike whether the variable is empty or not set. -/
theorem resolve_withoutPassword (empty : host.environment.find? passwordVariable = some "")
    (profile : Profile) (name : String) (defaults : Defaults) :
    profile.resolve name defaults host.withoutPassword = profile.resolve name defaults host := by
  have unset : (host.environment.find? passwordVariable).filter (· ≠ "") = none := by
    rw [empty]
    rfl
  simp only [resolve, resolveUsername_withoutPassword, resolvePassword_withoutPassword,
    resolvePassword_unset unset]

/-- Settings for which another password is found are the same but for it. -/
theorem settings_password {profile : Profile} {name : String} {host host' : Host}
    (password : Option String) {found found' : String} (defaults : Defaults)
    (users : profile.resolveUsername name host' = profile.resolveUsername name host)
    (finds : profile.resolvePassword name host = .ok found)
    (finds' : resolvePassword { profile with password } name host' = .ok found') :
    settings { profile with password } name defaults host' =
      (profile.settings name defaults host).map ({ · with password := found' }) := by
  have users' : resolveUsername { profile with password } name host' =
      profile.resolveUsername name host := users
  have secured : tlsConfig { profile with password } defaults = profile.tlsConfig defaults := rfl
  rw [settings, settings, users', finds, finds', secured]
  cases checkEndpoint profile.endpoint with
  | error error => rfl
  | ok _ =>
      cases profile.resolveUsername name host with
      | error error => rfl
      | ok username =>
          cases parseTimeout (profile.timeout.getD defaults.timeout) with
          | error error => rfl
          | ok timeout =>
              cases profile.tlsConfig defaults with
              | error error => rfl
              | ok tls => rfl

end Profile

end

/-! ### Options -/

namespace CommandLine

/-- Options with a password where they give none. -/
def Options.orPassword (options : Options) (password : Option String) : Options :=
  { options with password := options.password <|> password }

section

variable {name : String} {environment : Variables}

theorem fallbackValue_without {spec : OptionSpec} (apart : spec.fallback ≠ some name) :
    Level.fallbackValue (environment.without name) spec =
      Level.fallbackValue environment spec := by
  rw [Level.fallbackValue, Level.fallbackValue]
  cases falls : spec.fallback with
  | none => rfl
  | some other =>
      have different : other ≠ name := fun same => apart (by rw [falls, same])
      exact Variables.find?_without different

/-- The options that fall back to a variable take any text of it. -/
def Level.TakesAny (level : Level) (name : String) : Prop :=
  ∀ spec ∈ level.options, spec.fallback = some name →
    ∀ value, Level.acceptsVariable spec value = true

theorem checkVariables_without {level : Level} (takesAny : level.TakesAny name) (given : Given) :
    level.checkVariables given (environment.without name) =
      level.checkVariables given environment := by
  have alike : ∀ spec ∈ level.options,
      (Level.fallbackValue (environment.without name) spec).all (Level.acceptsVariable spec) =
        (Level.fallbackValue environment spec).all (Level.acceptsVariable spec) := by
    intro spec member
    by_cases falls : spec.fallback = some name
    · have any (found : Option String) : found.all (Level.acceptsVariable spec) = true :=
        (Option.all_eq_true _ _).mpr fun value _ => takesAny spec member falls value
      rw [any, any]
    · rw [fallbackValue_without falls]
  have same : (level.options.all fun spec => given.has spec.long ||
        (Level.fallbackValue (environment.without name) spec).all (Level.acceptsVariable spec)) =
      level.options.all fun spec => given.has spec.long ||
        (Level.fallbackValue environment spec).all (Level.acceptsVariable spec) := by
    rw [Bool.eq_iff_iff, List.all_eq_true, List.all_eq_true]
    exact forall₂_congr fun spec member => by rw [alike spec member]
  rw [Level.checkVariables, Level.checkVariables, same]

theorem readCommand_without {level : Level} (takesAny : level.TakesAny name)
    (words : List String) :
    Invocation.readCommand level words (environment.without name) =
      Invocation.readCommand level words environment := by
  simp only [Invocation.readCommand, checkVariables_without takesAny]

end

namespace Invocation

variable {environment : Variables}

theorem takesAny_password {program : String} {own : List OptionSpec} {operand : Option OptionSpec}
    {commands : List String} (unbound : ∀ spec ∈ own, spec.fallback = none) :
    (Level.mk program (sharedOptions ++ own) operand commands).TakesAny passwordVariable := by
  intro spec member falls value
  rcases List.mem_append.mp member with shared | other
  · have isPassword : spec = passwordSpec := by
      simp only [sharedOptions, List.mem_cons, List.not_mem_nil, or_false] at shared
      rcases shared with rfl | rfl | rfl | rfl | rfl | rfl | rfl | rfl | rfl | rfl <;>
        first
        | rfl
        | exact absurd falls (by decide)
    subst isPassword
    rfl
  · rw [unbound spec other] at falls
    cases falls

theorem commandOf_without (name : String) (words : List String) :
    commandOf name words (environment.without passwordVariable) =
      commandOf name words environment := by
  have request (verb : Verb) : (requestLevel verb).TakesAny passwordVariable :=
    takesAny_password (by decide)
  have other (name : String) (operand : Option OptionSpec) :
      (commandLevel name [] operand).TakesAny passwordVariable :=
    takesAny_password (List.forall_mem_nil _)
  simp only [commandOf, readCommand_without (request _), readCommand_without (other _ _)]

theorem optionsOf_without (outer inner : Given) :
    optionsOf outer inner environment =
      (optionsOf outer inner (environment.without passwordVariable)).orPassword
        (environment.find? passwordVariable) := by
  have kept (spec : OptionSpec) (apart : spec.fallback ≠ some passwordVariable) :
      Level.fallbackValue (environment.without passwordVariable) spec =
        Level.fallbackValue environment spec := fallbackValue_without apart
  have gone : Level.fallbackValue (environment.without passwordVariable) passwordSpec = none :=
    Variables.find?_without_self
  have held : Level.fallbackValue environment passwordSpec =
      environment.find? passwordVariable := rfl
  simp only [optionsOf, Options.orPassword, gone, held, kept profileSpec (by decide),
    kept endpointSpec (by decide), kept usernameSpec (by decide),
    kept authModeSpec (by decide), kept insecureSpec (by decide),
    kept timeoutSpec (by decide)]
  cases inner.value? passwordSpec.long <;> cases outer.value? passwordSpec.long <;> rfl

/-- The variable for the password counts as an option, if no option gives one. -/
theorem parse_without (words : List String) (environment : Variables) :
    (parse words environment).toOption =
      (parse words (environment.without passwordVariable)).toOption.map fun invocation =>
        { invocation with
          options := invocation.options.orPassword (environment.find? passwordVariable) } := by
  have atTop : topLevel.TakesAny passwordVariable :=
    takesAny_password (List.forall_mem_nil _)
  simp only [parse, commandOf_without, checkVariables_without atTop]
  cases topLevel.scan words .start with
  | error reason => rfl
  | ok scanned =>
      obtain ⟨scan, command?⟩ := scanned
      simp only [bind, Except.bind]
      cases command? with
      | none =>
          cases topLevel.settlePending scan with
          | error reason => rfl
          | ok settled =>
              cases checked : topLevel.checkVariables settled.given environment with
              | error reason => simp only [checked]; rfl
              | ok _ => simp only [checked]; rfl
      | some command =>
          obtain ⟨name, rest⟩ := command
          by_cases help : name = helpName
          · simp only [if_pos help]
            rfl
          · simp only [if_neg help]
            cases commandOf name rest environment with
            | error reason => rfl
            | ok read =>
                obtain ⟨command, inner⟩ := read
                cases topLevel.settlePending scan with
                | error reason => rfl
                | ok settled =>
                    cases checked : topLevel.checkVariables settled.given environment with
                    | error reason => simp only [checked]; rfl
                    | ok _ =>
                        simp only [checked]
                        exact congrArg (fun options => some (Invocation.mk command options))
                          (optionsOf_without settled.given inner)

end Invocation

/-- A machine whose keyring has an empty password for every account. -/
def emptied (host : Host) : Host := { host with keyring := fun _ => some "" }

theorem resolvePassword_emptied (profile : Profile) (name : String) (host : Host) :
    profile.resolvePassword name (emptied host).withoutPassword = .ok "" :=
  Profile.resolvePassword_withoutPassword profile name

namespace Options

section

variable {options : Options} {config : Config} {configPath : String} {host : Host}
  {warnings : List Warning}

/-- The password that a profile finds does not count beside an empty one among the options. -/
theorem outcomeOf_emptyPassword {host' : Host}
    (users : host'.environment.find? "ONEFS_USERNAME" = host.environment.find? "ONEFS_USERNAME")
    (chosen : ∀ name profile, options.chooseProfile config configPath = .ok (name, profile) →
      ∃ found, (options.overlay profile).resolvePassword name host = .ok found) :
    outcomeOf (Options.resolve { options with password := some "" } config configPath host')
        warnings =
      (outcomeOf (options.resolve config configPath host) warnings).map
        ({ · with password := "" }) := by
  have choice : Options.chooseProfile { options with password := some "" } config configPath =
      options.chooseProfile config configPath := rfl
  rw [outcomeOf_resolve, outcomeOf_resolve, choice]
  cases selected : options.chooseProfile config configPath with
  | error failure => rfl
  | ok pair =>
      obtain ⟨name, profile⟩ := pair
      obtain ⟨found, finds⟩ := chosen name profile selected
      obtain ⟨found', finds'⟩ :=
        Profile.resolvePassword_given host' (options.overlay profile) name
      have users : (options.overlay profile).resolveUsername name host' =
          (options.overlay profile).resolveUsername name host := by
        rw [Profile.resolveUsername_eq, Profile.resolveUsername_eq, users]
      have settled := Profile.settings_password (some "") config.defaults users finds finds'
      have overlaid : Options.overlay { options with password := some "" } profile =
          { options.overlay profile with password := some "" } := rfl
      simp only [Except.bind, overlaid, settled]
      cases (options.overlay profile).settings name config.defaults host with
      | error error => rfl
      | ok client => rfl

/-- Settings come from the profile that is chosen, with a password that is found for it. -/
theorem exists_settings {client : ClientConfig}
    (ended : outcomeOf (options.resolve config configPath host) warnings = .ok client) :
    ∃ name profile found, options.chooseProfile config configPath = .ok (name, profile) ∧
      (options.overlay profile).Gives name config.defaults host found ∧
      options.finish found = client := by
  rw [outcomeOf_resolve] at ended
  cases selected : options.chooseProfile config configPath with
  | error failure => rw [selected] at ended; cases ended
  | ok pair =>
      obtain ⟨name, profile⟩ := pair
      rw [selected] at ended
      cases settled : (options.overlay profile).settings name config.defaults host with
      | error error => simp [Except.bind, settled, mapError_error, Except.map] at ended
      | ok found =>
          simp only [Except.bind, settled, mapError_ok, Except.map, Except.ok.injEq] at ended
          exact ⟨name, profile, found, rfl, Profile.settings_eq_ok.mp settled, ended⟩

/-- Where every keyring entry is empty and the variable is not set, so is the password. -/
theorem password_emptied {client : ClientConfig} (unasked : options.password = none)
    (ended : outcomeOf (options.resolve config configPath (emptied host).withoutPassword) warnings =
      .ok client) :
    client.password = "" := by
  obtain ⟨name, profile, found, _, gives, finished⟩ := exists_settings ended
  have unset : (emptied host).withoutPassword.environment.find? "ONEFS_PASSWORD" = none :=
    Variables.find?_without_self
  have held := gives.password
  rw [unset] at held
  calc client.password = options.password.getD found.password := by rw [← finished]; rfl
    _ = found.password := by rw [unasked, Option.getD_none]
    _ = "" := (Option.some.inj held).symm

/-- An empty password among the options counts as one that the keyring has. -/
theorem outcomeOf_emptied (unasked : options.password = none) (warnings : List Warning) :
    outcomeOf (Options.resolve { options with password := some "" } config configPath host)
        warnings =
      outcomeOf (options.resolve config configPath (emptied host).withoutPassword) warnings := by
  have users : host.environment.find? "ONEFS_USERNAME" =
      (emptied host).withoutPassword.environment.find? "ONEFS_USERNAME" :=
    (Variables.find?_without (by decide)).symm
  rw [outcomeOf_emptyPassword users fun name profile _ =>
    ⟨"", resolvePassword_emptied (options.overlay profile) name host⟩]
  cases ended : outcomeOf (options.resolve config configPath (emptied host).withoutPassword)
      warnings with
  | error failure => rfl
  | ok client => rw [Except.map, ← password_emptied unasked ended]

/-- An empty password among the options takes the place of one that a profile finds. -/
theorem outcomeOf_hidden {client : ClientConfig}
    (settled : outcomeOf (options.resolve config configPath host.withoutPassword) warnings =
      .ok client) :
    outcomeOf (Options.resolve { options with password := some "" } config configPath host)
        warnings =
      .ok { client with password := "" } := by
  have users : host.environment.find? "ONEFS_USERNAME" =
      host.withoutPassword.environment.find? "ONEFS_USERNAME" :=
    (Variables.find?_without (by decide)).symm
  obtain ⟨name, profile, found, chosen, gives, _⟩ := exists_settings settled
  have finds : (options.overlay profile).resolvePassword name host.withoutPassword =
      .ok found.password :=
    (Profile.resolvePassword_eq ..).trans (Profile.credential_eq_ok.mpr gives.password)
  have chooses : ∀ name profile, options.chooseProfile config configPath = .ok (name, profile) →
      ∃ found, (options.overlay profile).resolvePassword name host.withoutPassword =
        .ok found := by
    intro other otherProfile chosen'
    cases chosen.symm.trans chosen'
    exact ⟨found.password, finds⟩
  rw [outcomeOf_emptyPassword users chooses, settled]
  rfl

end

end Options

/-- An empty variable for the password is taken as an option, if no option gives a password. -/
theorem Invocation.parse_empty {host : Host} {words : List String} {invocation : Invocation}
    (empty : host.environment.find? passwordVariable = some "")
    (read : parse words host.withoutPassword.environment = .ok invocation)
    (unasked : invocation.options.password = none) :
    parse words host.environment =
      .ok { invocation with options := { invocation.options with password := some "" } } := by
  have given : invocation.options.orPassword (host.environment.find? passwordVariable) =
      { invocation.options with password := some "" } := by
    rw [Options.orPassword, empty, unasked]
    rfl
  have parsed := parse_without words host.environment
  rw [show host.environment.without passwordVariable = host.withoutPassword.environment from rfl,
    read] at parsed
  cases ended : parse words host.environment with
  | error reason => simp [ended, Except.toOption] at parsed
  | ok other =>
      simp only [ended, Except.toOption, Option.map_some, Option.some.injEq, given] at parsed
      rw [parsed]

/-- An empty variable for the password is not set for a profile and for a configuration. A command
line without a password takes it for one, as if the keyring had an empty one for every profile. -/
theorem empty_password_stands (files : Files) (configPath : String) (host : Host)
    (words : List String) (warnings : List Warning) {invocation : Invocation}
    (empty : host.environment.find? passwordVariable = some "")
    (read : Invocation.parse words host.withoutPassword.environment = .ok invocation)
    (unasked : invocation.options.password = none) :
    let options := { invocation.options with password := some "" }
    (∀ (profile : Profile) (name : String) (defaults : Defaults),
      profile.resolve name defaults host = profile.resolve name defaults host.withoutPassword) ∧
    Config.loadOrStandard files configPath host.environment =
      Config.loadOrStandard files configPath host.withoutPassword.environment ∧
    Invocation.parse words host.environment = .ok { invocation with options } ∧
    outcomeOf (clientConfig files configPath host options) warnings =
      outcomeOf (clientConfig files configPath (emptied host).withoutPassword invocation.options)
        warnings ∧
    ∀ client, outcomeOf (clientConfig files configPath host.withoutPassword invocation.options)
        warnings = .ok client →
      outcomeOf (clientConfig files configPath host options) warnings =
        .ok { client with password := "" } := by
  intro options
  have loads := loadOrStandard_withoutPassword files configPath
  have profiles (profile : Profile) (name : String) (defaults : Defaults) :
      profile.resolve name defaults host = profile.resolve name defaults host.withoutPassword :=
    (Profile.resolve_withoutPassword empty profile name defaults).symm
  refine ⟨profiles, (loads host).symm, Invocation.parse_empty empty read unasked, ?_, ?_⟩
  · rw [clientConfig, clientConfig, loads (emptied host)]
    exact Options.outcomeOf_emptied unasked warnings
  · intro client settled
    rw [clientConfig, loads host] at settled
    exact Options.outcomeOf_hidden settled

def versionWords : List String := ["-e", "https://[::1]:8080", "-u", "root", "version"]

def versionInvocation : Invocation where
  command := .version
  options :=
    { profile := none
      endpoint := some "https://[::1]:8080"
      username := some "root"
      password := none
      authMode := none
      insecure := false
      timeout := none
      verbose := 0 }

/-- A machine whose keyring has the password that an empty variable hides. -/
def hidingHost : Host where
  environment := [("ONEFS_PASSWORD", "")]
  keyring account := if account = "cli/password" then some "kept" else none

theorem empty_password_stands_hidden :
    Invocation.parse versionWords hidingHost.withoutPassword.environment =
        .ok versionInvocation ∧
      outcomeOf (clientConfig .empty "config.toml" hidingHost
        { versionInvocation.options with password := some "" }) [] =
        .ok (.new "https://[::1]:8080" "root" "") := by
  have read : Invocation.parse versionWords hidingHost.withoutPassword.environment =
      .ok versionInvocation := by
    rfl
  have settled : outcomeOf (clientConfig .empty "config.toml" hidingHost.withoutPassword
      versionInvocation.options) [] = .ok (.new "https://[::1]:8080" "root" "kept") := by
    rfl
  exact ⟨read, (empty_password_stands .empty "config.toml" hidingHost versionWords [] rfl read
    rfl).2.2.2.2 _ settled⟩

/-- The same words give a client two passwords: with the empty variable, and without it. -/
theorem empty_password_differs :
    ∃ options options', Invocation.parse versionWords hidingHost.environment =
        .ok ⟨.version, options⟩ ∧
      Invocation.parse versionWords hidingHost.withoutPassword.environment =
        .ok ⟨.version, options'⟩ ∧
      outcomeOf (clientConfig .empty "config.toml" hidingHost options) [] =
        .ok (.new "https://[::1]:8080" "root" "") ∧
      outcomeOf (clientConfig .empty "config.toml" hidingHost.withoutPassword options') [] =
        .ok (.new "https://[::1]:8080" "root" "kept") :=
  ⟨{ versionInvocation.options with password := some "" }, versionInvocation.options,
    rfl, rfl, by decide +kernel, rfl⟩

end CommandLine

end ClusterRest
