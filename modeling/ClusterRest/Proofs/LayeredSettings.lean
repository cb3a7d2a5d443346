import ClusterRest.CommandLine.Invocation
import ClusterRest.Proofs.NestedSettings

/-!
A configuration combines its layers leaf by leaf: what a variable gives stands over what the file
gives, and that over the standard settings. Only a list in the place of a table of the file gives
way as a whole.

Main statement: `Config.load_by_layers`.
-/

namespace ClusterRest

open Toml (Leaf)
open Decoder Config
open Setting (overlaid mergeInto laidOver at? Settles)

/-! ### Sections -/

namespace Setting

/-- A field that a section of a file gives. A list gives it by its place, but only as long as no
variable gives something of the section. -/
def sectionField? (index : Nat) (name : String) (overridden : Bool) :
    Option Setting → Option Setting
  | some (.table _ members) => Settings.find? name members
  | some (.list _ elements) => if overridden then none else elements[index]?
  | some (.scalar _ _) | none => none

/-- What stands below the standard leaf does not count. -/
theorem Settles.of_or {setting built : Option Setting} {standard field : Option Leaf}
    (settles : Settles (setting.or built) standard field)
    (builtIn : ∀ inner ∈ built, inner.leaf? = standard) : Settles setting standard field := by
  cases setting with
  | some setting => exact settles
  | none =>
      cases built with
      | none => exact settles
      | some inner =>
          obtain ⟨leaf, value, field_eq⟩ := settles
          exact field_eq.trans (value.symm.trans (builtIn inner rfl))

theorem at?_singleton (name : String) (setting : Setting) :
    setting.at? [name] = Settings.find? name setting.members := by
  rw [at?]
  cases Settings.find? name setting.members <;> rfl

section

variable {built file given : Option Setting} {index : Nat} {name : String}
  {standard field : Option Leaf}

/-- The members of what may be there. -/
def membersOf (setting : Option Setting) : Settings := (setting.map members).getD []

theorem Settles.of_merged (earlier later : Settings) (sorted : later.Sorted)
    (settles : Settles (Settings.find? name (mergeInto earlier later)) standard field) :
    Settles ((later.find? name).or (earlier.find? name)) standard field := by
  rw [find?_mergeInto_laidOver sorted] at settles
  exact settles.congr (map_leaf?_laidOver _ _)

/-- What is left of a section under a table of variables is what its tables give. -/
theorem Settles.of_members
    (settles : Settles ((membersOf (laidOver built file)).find? name) standard field)
    (builtIn : ∀ inner ∈ (membersOf built).find? name, inner.leaf? = standard)
    (sorted : ∀ setting ∈ file, setting.members.Sorted) :
    Settles (sectionField? index name true file) standard field := by
  cases file with
  | none =>
      have settles : Settles (Option.none.or _) standard field := settles
      exact settles.of_or builtIn
  | some setting =>
      cases setting with
      | scalar origin value => exact settles
      | list origin elements => exact settles
      | table origin later =>
          exact (Settles.of_merged (membersOf built) later (sorted _ rfl) settles).of_or builtIn

/-- A field of a section that is laid over standard settings, without variables for it. -/
theorem Settles.of_file
    (settles : Settles ((laidOver built file).bind (field? index name)) standard field)
    (tables : ∀ setting ∈ built, ∃ origin members, setting = .table origin members)
    (builtIn : ∀ inner ∈ (membersOf built).find? name, inner.leaf? = standard)
    (sorted : ∀ setting ∈ file, setting.members.Sorted) :
    Settles (sectionField? index name false file) standard field := by
  cases file with
  | none =>
      have below : Settles (Option.none.or ((membersOf built).find? name)) standard field := by
        cases built with
        | none => exact settles
        | some setting =>
            obtain ⟨origin, members, rfl⟩ := tables setting rfl
            exact settles
      exact below.of_or builtIn
  | some setting =>
      cases setting with
      | scalar origin value => exact settles
      | list origin elements => exact settles
      | table origin later =>
          exact (Settles.of_merged (membersOf built) later (sorted _ rfl) settles).of_or builtIn

/-- A field of a section of all layers. -/
theorem Settles.of_layers
    (settles : Settles ((laidOver (laidOver built file) given).bind (field? index name)) standard
      field)
    (tables : ∀ setting ∈ built, ∃ origin members, setting = .table origin members)
    (builtIn : ∀ inner ∈ (membersOf built).find? name, inner.leaf? = standard)
    (sorted : ∀ setting ∈ file, setting.members.Sorted)
    (nested : ∀ setting ∈ given, setting.IsNested 1) :
    Settles ((given.bind (at? [name])).or (sectionField? index name given.isSome file))
      standard field := by
  cases given with
  | none =>
      have settles : Settles ((laidOver built file).bind (field? index name)) standard field :=
        settles
      exact settles.of_file tables builtIn sorted
  | some setting =>
      have inside := nested setting rfl
      cases setting with
      | scalar origin value => cases inside
      | list origin elements => cases inside
      | table origin later =>
          have settles := Settles.of_merged (membersOf (laidOver built file)) later inside.1 settles
          rw [Option.bind_some, at?_singleton, members]
          cases found : Settings.find? name later with
          | some inner =>
              rw [found] at settles
              exact settles
          | none =>
              rw [found] at settles
              exact settles.of_members builtIn sorted

end

end Setting

/-! ### Configurations -/

namespace Variables

/-- Whether a path leads to a field of a configuration. -/
def isFieldPath : List String → Bool
  | [first] => first == defaultProfileName
  | [first, field] => first == defaultsName && (namesOf Defaults.standard.entries).contains field
  | [first, _, field] => first == profilesName && Profile.fieldNames.contains field
  | _ => false

/-- Each variable gives a field of a configuration or no part of one. -/
def IsAddressed (environment : Variables) : Prop :=
  ∀ entry ∈ environment, isForeign entry.1 = true ∨ (path? entry.1).any isFieldPath = true

instance (environment : Variables) : Decidable environment.IsAddressed :=
  inferInstanceAs (Decidable (∀ entry ∈ environment,
    isForeign entry.1 = true ∨ (path? entry.1).any isFieldPath = true))

theorem length_of_isFieldPath {first : String} {rest : List String}
    (isField : isFieldPath (first :: rest) = true) :
    (first = defaultProfileName → rest.length = 0) ∧ (first = defaultsName → rest.length = 1) ∧
      (first = profilesName → rest.length = 2) := by
  rw [isFieldPath.eq_def] at isField
  split at isField
  all_goals simp_all [defaultProfileName, defaultsName, profilesName]

theorem IsAddressed.hasDepth {environment : Variables} (addressed : environment.IsAddressed) :
    HasDepth defaultProfileName 0 environment ∧ HasDepth defaultsName 1 environment ∧
      HasDepth profilesName 2 environment := by
  have field {entry : String × String} (member : entry ∈ environment) {first : String}
      {rest : List String} (named : path? entry.1 = some (first :: rest))
      (isPart : first ∈ [defaultProfileName, defaultsName, profilesName]) :
      isFieldPath (first :: rest) = true := by
    rcases addressed entry member with foreign | field
    · rw [isForeign, named] at foreign
      simp [isPart] at foreign
    · simpa [named] using field
  refine ⟨fun entry member rest named => ?_, fun entry member rest named => ?_,
    fun entry member rest named => ?_⟩
  · exact (length_of_isFieldPath (field member named (by simp))).1 rfl
  · exact (length_of_isFieldPath (field member named (by simp))).2.1 rfl
  · exact (length_of_isFieldPath (field member named (by simp))).2.2 rfl

end Variables

/-- What variables give counts by its leaves only. -/
theorem Setting.Settles.of_variables {environment : Variables} {first : String}
    {names : List String} {depth : Nat} {below : Option Setting} {standard field : Option Leaf}
    (settles : Settles (((environment.settings.find? first).bind (at? names)).or below)
      standard field)
    (deep : Variables.HasDepth first depth environment) (length : names.length = depth) :
    Settles ((environment.given? (first :: names)).or below) standard field := by
  refine settles.congr ?_
  rw [Option.map_or, Option.map_or, Variables.map_leaf?_settings names deep length]

namespace Config

/-- A configuration whose fields are those of variables, or else of a file, or else standard ones.
A profile is there if the file or a variable gives something of it. -/
structure Combines (settings : Settings) (environment : Variables) (config : Config) : Prop where
  defaultProfile :
    Settles ((environment.given? [defaultProfileName]).or (settings.find? defaultProfileName))
      (some (.text standardName)) (config.defaultProfile.map .text)
  defaults : ∀ index name leaf, Defaults.standard.entries[index]? = some (name, leaf) →
    Settles ((environment.given? [defaultsName, name]).or
        (Setting.sectionField? index name (environment.mentions [defaultsName])
          (settings.find? defaultsName)))
      (some leaf) (config.defaults.entries.lookup name)
  listed : ∀ name, (config.find? name).isSome =
    ((profileSetting? name settings).isSome || environment.mentions [profilesName, name])
  profiles : ∀ name profile, config.find? name = some profile →
    ∀ index field, Profile.fieldNames[index]? = some field →
      Settles ((environment.given? [profilesName, name, field]).or
          (Setting.sectionField? index field (environment.mentions [profilesName, name])
            (profileSetting? name settings)))
        none (profile.entries.lookup field)

variable {files : Files} {path : String} {environment : Variables} {settings : Settings}
  {config : Config}

theorem bind_at?_nil (setting : Option Setting) : setting.bind (at? []) = setting := by
  cases setting <;> rfl

theorem bind_at?_singleton (setting : Option Setting) (name : String) (names : List String) :
    (setting.bind (at? [name])).bind (at? names) = setting.bind (at? (name :: names)) := by
  cases setting with
  | none => rfl
  | some setting => rw [Option.bind_some, Option.bind_some, Setting.at?_singleton, at?]

theorem profileSetting?_eq (name : String) (settings : Settings) :
    profileSetting? name settings = (settings.find? profilesName).bind (at? [name]) := by
  rw [profileSetting?]
  cases settings.find? profilesName with
  | none => rfl
  | some setting => exact (Setting.at?_singleton name setting).symm

theorem settles_defaultProfile (read : fileSettings files path = .ok settings)
    (deep : Variables.HasDepth defaultProfileName 0 environment)
    (whole : ofSettings (layered [standardSettings, settings, environment.settings]) =
      .ok config) :
    Settles ((environment.given? [defaultProfileName]).or (settings.find? defaultProfileName))
      (some (.text standardName)) (config.defaultProfile.map .text) := by
  have decoded := member_eq_ok.mp (ofSettings_eq_ok.mp whole).1
  have settles := readsLeaf_text.settles decoded (some (.text standardName))
  rw [find?_layers (sorted_fileSettings read).1 (Variables.sorted_settings environment)]
    at decoded settles
  have standard : standardSettings.find? defaultProfileName =
      some (builtIn (.text standardName)) := rfl
  have given : (laidOver (laidOver (standardSettings.find? defaultProfileName)
      (settings.find? defaultProfileName))
      (environment.settings.find? defaultProfileName)).isSome = true := by
    rw [Setting.isSome_laidOver, Setting.isSome_laidOver, standard, Option.isSome_some,
      Bool.or_true, Bool.or_true]
  have field_eq : (config.defaultProfile.map Leaf.text).or (some (.text standardName)) =
      config.defaultProfile.map .text := by
    cases held : config.defaultProfile with
    | some name => rfl
    | none =>
        rw [held] at decoded
        rw [Option.map_eq_none_iff.mp decoded] at given
        cases given
  rw [field_eq] at settles
  have combined : Settles (((environment.settings.find? defaultProfileName).bind (at? [])).or
      ((settings.find? defaultProfileName).or (standardSettings.find? defaultProfileName)))
      (some (.text standardName)) (config.defaultProfile.map .text) := by
    refine settles.congr ?_
    rw [Setting.map_leaf?_laidOver, Option.map_or, Setting.map_leaf?_laidOver, bind_at?_nil,
      ← Option.map_or]
  have below := combined.of_variables deep rfl
  rw [← Option.or_assoc, standard] at below
  refine below.of_or fun inner same => ?_
  cases same
  rfl

/-- A field of the defaults. -/
theorem settles_defaults (read : fileSettings files path = .ok settings)
    (deep : Variables.HasDepth defaultsName 1 environment)
    (whole : ofSettings (layered [standardSettings, settings, environment.settings]) =
      .ok config) {index : Nat} {name : String} {leaf : Leaf}
    (named : Defaults.standard.entries[index]? = some (name, leaf)) :
    Settles ((environment.given? [defaultsName, name]).or
        (Setting.sectionField? index name (environment.mentions [defaultsName])
          (settings.find? defaultsName)))
      (some leaf) (config.defaults.entries.lookup name) := by
  obtain ⟨_, ⟨defaults?, decoded, same⟩, _⟩ := ofSettings_eq_ok.mp whole
  have standard : ∃ members : Settings,
      standardSettings.find? defaultsName = some (.table .builtIn members) ∧
        ∀ inner ∈ members.find? name, inner.leaf? = some leaf := by
    refine ⟨_, rfl, fun inner held => ?_⟩
    match index, named with
    | 0, rfl | 1, rfl | 2, rfl | 3, rfl =>
        cases held
        rfl
  obtain ⟨members, standard, builtInLeaf⟩ := standard
  rw [member_eq_ok, find?_layers (sorted_fileSettings read).1 (Variables.sorted_settings _),
    standard] at decoded
  have mentioned : (environment.settings.find? defaultsName).isSome =
      environment.mentions [defaultsName] := by
    rw [← Variables.isSome_settings [] deep (Nat.zero_le 1), bind_at?_nil]
  cases held : laidOver (laidOver (some (.table .builtIn members)) (settings.find? defaultsName))
      (environment.settings.find? defaultsName) with
  | none =>
      have given := congrArg Option.isSome held
      rw [Setting.isSome_laidOver, Setting.isSome_laidOver, Option.isSome_some, Bool.or_true,
        Bool.or_true] at given
      cases given
  | some setting =>
      rw [held] at decoded
      cases defaults? with
      | none => cases decoded
      | some defaults =>
          have settles := Defaults.settles_of_decode (Option.some.inj decoded) named
          rw [← Option.bind_some (a := setting) (f := Setting.field? index name), ← held] at settles
          have combined := settles.of_layers (fun _ same => ⟨_, _, (Option.some.inj same).symm⟩)
            builtInLeaf (fun setting held => (sorted_fileSettings read).2 defaultsName [] setting
              ((bind_at?_nil _).trans held)) (Variables.isNested_settings deep)
          rw [mentioned] at combined
          rw [same]
          exact combined.of_variables deep rfl

/-- The profiles, and their fields. -/
theorem settles_profiles (read : fileSettings files path = .ok settings)
    (deep : Variables.HasDepth profilesName 2 environment)
    (whole : ofSettings (layered [standardSettings, settings, environment.settings]) =
      .ok config) (name : String) :
    (config.find? name).isSome =
        ((profileSetting? name settings).isSome || environment.mentions [profilesName, name]) ∧
      ∀ profile, config.find? name = some profile →
        ∀ index field, Profile.fieldNames[index]? = some field →
          Settles ((environment.given? [profilesName, name, field]).or
              (Setting.sectionField? index field (environment.mentions [profilesName, name])
                (profileSetting? name settings)))
            none (profile.entries.lookup field) := by
  have nested := Variables.isNested_settings deep
  have tables : ∀ setting, environment.settings.find? profilesName = some setting →
      ∃ origin, ∃ members : Settings, setting = .table origin members ∧ members.Sorted := by
    intro setting held
    have inside := nested setting held
    cases setting with
    | scalar origin value => cases inside
    | list origin elements => cases inside
    | table origin members => exact ⟨origin, members, rfl, inside.1⟩
  obtain ⟨_, members, _, _, decoded, held⟩ :=
    exists_profilesTable read (Variables.sorted_settings environment) tables whole
  have found := Profile.lookup_decodeAll decoded name
  rw [held, profileSetting?_eq name environment.settings] at found
  have mentioned : ((environment.settings.find? profilesName).bind (at? [name])).isSome =
      environment.mentions [profilesName, name] :=
    Variables.isSome_settings [name] deep (Nat.le_succ 1)
  have given : ∀ setting ∈ (environment.settings.find? profilesName).bind (at? [name]),
      setting.IsNested 1 := by
    intro inner below
    obtain ⟨setting, above, below⟩ := Option.bind_eq_some_iff.mp below
    have inside := nested setting above
    obtain ⟨origin, members, rfl, _⟩ := tables setting above
    rw [Setting.at?_singleton] at below
    exact inside.2 name inner below
  refine ⟨?_, fun profile listed index field named => ?_⟩
  · have listed := congrArg Option.isSome found
    rw [Option.isSome_map, Option.isSome_map, Setting.isSome_laidOver, Setting.isSome_laidOver,
      mentioned, Option.isSome_none, Bool.or_false, Bool.or_comm] at listed
    exact listed.symm
  · rw [find?] at listed
    rw [listed] at found
    cases whole : laidOver (laidOver none (profileSetting? name settings))
        ((environment.settings.find? profilesName).bind (at? [name])) with
    | none =>
        rw [whole] at found
        cases found
    | some setting =>
        have decoded := Option.some.inj (whole ▸ found)
        have settles := Profile.settles_of_decode decoded named
        rw [← Option.bind_some (a := setting) (f := Setting.field? index field), ← whole] at settles
        have sorted (inner : Setting) (held : profileSetting? name settings = some inner) :
            inner.members.Sorted :=
          (sorted_fileSettings read).2 profilesName [name] inner
            ((profileSetting?_eq name settings).symm.trans held)
        have combined := settles.of_layers nofun nofun sorted given
        rw [mentioned, bind_at?_singleton] at combined
        exact combined.of_variables deep rfl

/-- Where no plain file is, the settings are those of an empty one. -/
theorem fileSettings_absent {fault : FileFault} (absent : files path = .error fault)
    (none : fault.isAbsence = true) :
    fileSettings files path = fileSettings (files.write path []) path := by
  have unread : files.readText path = .error fault := by
    rw [Files.readText, absent]
    rfl
  have empty : (files.write path []).readText path = .ok "" := by
    have content : files.write path [] path = .ok [] := if_pos rfl
    have decoded : Bytes.toString? [] = some "" := rfl
    simp only [Files.readText, content, bind, Except.bind, decoded]
    rfl
  have parsed : Toml.parse? "" = some [] := by rfl
  rw [fileSettings, fileSettings, unread, empty]
  simp only [parsed, none, if_true]
  rfl

/-- The variables that options of the command line fall back to. -/
def optionVariables : List String := CommandLine.Invocation.sharedOptions.filterMap (·.fallback)

example : optionVariables = ["ONEFS_PROFILE", "ONEFS_ENDPOINT", "ONEFS_USERNAME",
    "ONEFS_PASSWORD", "ONEFS_AUTH_MODE", "ONEFS_INSECURE", "ONEFS_TIMEOUT"] := by
  decide

/-- A configuration combines variables, a file and the standard settings leaf by leaf. Variables
that give no part of it, such as those of options, do not count, and a file that is missing, or
that is no plain file, is as good as an empty one. -/
theorem load_by_layers (files : Files) (path : String) (environment : Variables) :
    (environment.IsAddressed → ∀ config, load files path environment = .ok config →
      ∃ settings, fileSettings files path = .ok settings ∧
        config.Combines settings environment) ∧
    load files path (environment.filter (!Variables.isForeign ·.1)) =
      load files path environment ∧
    (∀ name ∈ optionVariables, Variables.isForeign name = true) ∧
    (∀ fault, files path = .error fault → fault.isAbsence = true →
      load files path environment = load (files.write path []) path environment) := by
  refine ⟨fun addressed config loaded => ?_, ?_, by decide +kernel,
    fun fault absent none => ?_⟩
  · obtain ⟨settings, read, whole⟩ := load_eq_ok.mp loaded
    obtain ⟨deepName, deepDefaults, deepProfiles⟩ := addressed.hasDepth
    exact ⟨settings, read, {
      defaultProfile := settles_defaultProfile read deepName whole
      defaults := fun _ _ _ => settles_defaults read deepDefaults whole
      listed := fun name => (settles_profiles read deepProfiles whole name).1
      profiles := fun name => (settles_profiles read deepProfiles whole name).2 }⟩
  · exact load_filter (fun entry _ dropped => by simpa using dropped) files path
  · rw [load, load, fileSettings_absent absent none]

/-- A file with a default and a profile. -/
def clusterFiles : Files :=
  Files.empty.write "config.toml" (Bytes.ofString
    ("[defaults]\ntimeout = \"45s\"\n"
      ++ "[profiles.lab]\nendpoint = \"https://[::1]:8080\"\n"))

/-- Variables for another default, for a field of the profile and for an option. -/
def clusterVariables : Variables :=
  [("ONEFS_DEFAULTS__AUTH_MODE", "1"), ("ONEFS_PROFILES__LAB__GROUP", "backup"),
    ("ONEFS_TIMEOUT", "12")]

theorem load_by_layers_cluster : ∃ settings,
    fileSettings clusterFiles "config.toml" = .ok settings ∧
      Combines settings clusterVariables
        { standard with
          defaults := ⟨1, false, "45s", 2⟩
          profiles := [("lab",
            { Profile.ofEndpoint "https://[::1]:8080" with group := "backup" })] } :=
  (load_by_layers clusterFiles "config.toml" clusterVariables).1 (by decide +kernel) _
    (by decide +kernel)

/-- A file that gives the defaults as a list. -/
def listFiles : Files :=
  Files.empty.write "config.toml"
    (Bytes.ofString "defaults = [1, true, \"45s\", 0]\n")

/-- A variable for one of the defaults takes the others of a list with it. -/
theorem load_list_gives_way :
    Variables.IsAddressed [("ONEFS_DEFAULTS__VERBOSITY", "1")] ∧
      load listFiles "config.toml" [] = .ok { standard with defaults := ⟨1, true, "45s", 0⟩ } ∧
      load listFiles "config.toml" [("ONEFS_DEFAULTS__VERBOSITY", "1")] =
        .ok { standard with defaults := ⟨0, false, "30s", 1⟩ } :=
  ⟨by decide +kernel, by decide +kernel, by decide +kernel⟩

end Config

end ClusterRest
