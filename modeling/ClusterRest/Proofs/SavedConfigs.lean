import ClusterRest.Proofs.LoadedLayers
import ClusterRest.Proofs.SavedFiles
import ClusterRest.Proofs.SettingLeaves
import ClusterRest.Proofs.Utf8

/-!
Configurations, saved and loaded again. What a file keeps is laid over the standard settings; each
field then reads what was set, and a field that was left out reads nothing.

Main statement: `Config.load_save`.
-/

namespace ClusterRest

open Toml Config Decoder
open Setting (overlaid mergeInto membersOfToml ofToml)

/-! ### Settings of entries -/

/-- The setting that an entry gives. -/
def leafSetting (leaf : Leaf) : Setting := ofToml leaf.toValue

theorem overlaid_leafSetting (earlier : Option Setting) (leaf : Leaf) :
    overlaid earlier (leafSetting leaf) = leafSetting leaf := by
  cases leaf <;> rfl

theorem lookup_leafMembers (entries : List (String × Leaf)) (name : String) :
    (leafMembers entries).lookup name = (entries.lookup name).map Leaf.toValue := by
  induction entries with
  | nil => rfl
  | cons entry entries ih =>
      rw [leafMembers, List.map_cons, lookup_cons, lookup_cons, ← leafMembers, ih]
      by_cases same : name = entry.1
      · rw [if_pos same, if_pos same]
        rfl
      · rw [if_neg same, if_neg same]

/-- What a saved table holds over an earlier one. -/
theorem find?_saved (earlier : Settings) (entries : List (String × Leaf)) (name : String) :
    Settings.find? name (mergeInto earlier (membersOfToml (leafMembers entries))) =
      ((entries.lookup name).map leafSetting).or (Settings.find? name earlier) := by
  rw [Setting.find?_mergeInto_laidOver (Setting.sorted_membersOfToml _),
    Setting.find?_membersOfToml, lookup_leafMembers, Option.map_map]
  cases entries.lookup name with
  | none => rfl
  | some leaf => exact congrArg some (overlaid_leafSetting _ leaf)

/-! ### Fields of a saved table -/

/-- A decoder reads what an entry of a kind gives. -/
def Restores {α : Type} (decode : Decoder α) (leaf : α → Leaf) : Prop :=
  ∀ value, decode (leafSetting (leaf value)) = .ok value

theorem restores_text : Restores text .text := fun _ => rfl

theorem restores_path : Restores path .text := fun _ => rfl

theorem restores_boolean : Restores boolean .boolean := fun _ => rfl

theorem restores_integer : Restores integer .integer := fun _ => rfl

theorem restores_texts : Restores texts .texts := by
  intro values
  have elements (index : Nat) :
      textsFrom index (Setting.elementsOfToml (values.map .text)) = .ok values := by
    induction values generalizing index with
    | nil => rfl
    | cons value values ih =>
        rw [List.map_cons, Setting.elementsOfToml, textsFrom, ih]
        rfl
  exact elements 0

theorem member_restored {α : Type} {decode : Decoder α} {leaf : α → Leaf}
    (restores : Restores decode leaf) {name : String} {members : Settings} {field : Option α}
    (found : Settings.find? name members = (field.map leaf).map leafSetting) :
    member decode name members = .ok field := by
  cases field with
  | none => rw [member, found]; rfl
  | some value => exact member_found found (restores value)

/-- A profile is read from the table that its entries make. -/
theorem ofTable_entries (origin : Origin) (profile : Profile) {members : Settings}
    (found : ∀ name, Settings.find? name members = (profile.entries.lookup name).map leafSetting) :
    Profile.ofTable origin members = .ok profile := by
  have field {α : Type} {decode : Decoder α} {leaf : α → Leaf} (restores : Restores decode leaf)
      (name : String) {value : Option α} (stored : profile.entries.lookup name = value.map leaf) :
      member decode name members = .ok value :=
    member_restored restores ((found name).trans (congrArg (Option.map leafSetting) stored))
  obtain ⟨endpoint, username, password, group, authMode, insecure, caCert, minTls, maxTls, suites,
    timeout, volumes, permissions, unresolvable, verbosity⟩ := lookup_entries profile
  simp only [Profile.ofTable, Profile.endpointName, bind, Except.bind,
    field restores_integer "auth_mode" authMode, field restores_path "ca_cert" caCert,
    field restores_texts "cipher_suites" suites, field restores_text "endpoint" endpoint,
    field restores_text "group" group,
    field restores_boolean "ignore_unresolvable_hosts" unresolvable,
    field restores_boolean "insecure" insecure, field restores_text "max_tls_version" maxTls,
    field restores_text "min_tls_version" minTls, field restores_text "password" password,
    field restores_text "timeout" timeout, field restores_text "username" username,
    field restores_integer "verbosity" verbosity, field restores_text "volumes_path" volumes,
    field restores_text "volumes_path_permissions" permissions]
  rfl

/-- The setting of a table of entries. -/
def tableSetting (entries : List (String × Leaf)) : Setting := ofToml (.table (leafMembers entries))

theorem decode_defaults (earlier : Option Setting) (defaults : Defaults) :
    Defaults.decode (overlaid earlier (tableSetting defaults.entries)) = .ok defaults := by
  let earlierMembers := (earlier.map Setting.members).getD []
  have found := find?_saved earlierMembers defaults.entries
  have field {α : Type} {decode : Decoder α} {leaf : α → Leaf} (restores : Restores decode leaf)
      {name : String} {value : α} (stored : defaults.entries.lookup name = some (leaf value)) :
      member decode name (mergeInto earlierMembers (membersOfToml (leafMembers defaults.entries))) =
        .ok (some value) := by
    refine member_found ?_ (restores value)
    rw [found, stored]
    rfl
  have authMode : defaults.entries.lookup "auth_mode" = some (.integer defaults.authMode) := rfl
  have insecure : defaults.entries.lookup "insecure" = some (.boolean defaults.insecure) := rfl
  have timeout : defaults.entries.lookup "timeout" = some (.text defaults.timeout) := rfl
  have verbosity : defaults.entries.lookup "verbosity" = some (.integer defaults.verbosity) := rfl
  rw [tableSetting, ofToml, overlaid, Defaults.decode]
  simp only [bind, Except.bind, earlierMembers, field restores_integer authMode,
    field restores_boolean insecure, field restores_text timeout, field restores_integer verbosity]
  rfl

theorem decode_profile (profile : Profile) :
    Profile.decode (overlaid none (tableSetting profile.entries)) = .ok profile := by
  rw [tableSetting, ofToml, overlaid, Profile.decode]
  refine ofTable_entries .file profile fun name => ?_
  exact (find?_saved [] profile.entries name).trans Option.or_none

/-! ### Profiles in any order -/

/-- Members in another order give the same profiles, in that order. -/
theorem decodeAll_perm {members members' : Settings} (perm : members.Perm members')
    {profiles : List (String × Profile)} (decoded : Profile.decodeAll members = .ok profiles) :
    ∃ profiles', Profile.decodeAll members' = .ok profiles' ∧ profiles'.Perm profiles := by
  induction perm generalizing profiles with
  | nil => exact ⟨profiles, decoded, .refl _⟩
  | cons entry _ ih =>
      obtain ⟨profile, others, first, rest, rfl⟩ := Profile.decodeAll_cons.mp decoded
      obtain ⟨others', rest', perm⟩ := ih rest
      exact ⟨_, Profile.decodeAll_cons.mpr ⟨profile, others', first, rest', rfl⟩, perm.cons _⟩
  | swap second first members =>
      obtain ⟨profile, _, head, decoded', rfl⟩ := Profile.decodeAll_cons.mp decoded
      obtain ⟨profile', others, head', rest, rfl⟩ := Profile.decodeAll_cons.mp decoded'
      have swapped : Profile.decodeAll (first :: members) = .ok ((first.1, profile) :: others) :=
        Profile.decodeAll_cons.mpr ⟨profile, others, head, rest, rfl⟩
      exact ⟨_, Profile.decodeAll_cons.mpr ⟨profile', _, head', swapped, rfl⟩, .swap _ _ _⟩
  | trans _ _ ih ih' =>
      obtain ⟨profiles', decoded', perm⟩ := ih decoded
      obtain ⟨profiles'', decoded'', perm'⟩ := ih' decoded'
      exact ⟨profiles'', decoded'', perm'.trans perm⟩

/-- The settings of profiles of a file that are laid over none. -/
def laidProfiles (profiles : List (String × Profile)) : Settings :=
  profiles.map fun entry => (entry.1, overlaid none (tableSetting entry.2.entries))

theorem decodeAll_laidProfiles (profiles : List (String × Profile)) :
    Profile.decodeAll (laidProfiles profiles) = .ok profiles := by
  induction profiles with
  | nil => rfl
  | cons entry profiles ih =>
      exact Profile.decodeAll_cons.mpr ⟨entry.2, profiles, decode_profile entry.2, ih, rfl⟩

/-- The profiles of a file, laid over none, are read back in some order. -/
theorem decodeTable_saved {profiles : List (String × Profile)}
    (distinct : (namesOf profiles).Nodup) : ∃ read,
      Profile.decodeTable (overlaid (some (.table .builtIn [])) (ofToml (.table
        (profileMembers profiles)))) = .ok read ∧ read.Perm profiles := by
  have names_eq : namesOf (profileMembers profiles) = namesOf profiles := by
    rw [namesOf, profileMembers, List.map_map]
    rfl
  have distinct' : (namesOf (profileMembers profiles)).Nodup := by rwa [names_eq]
  have merged : (mergeInto [] (membersOfToml (profileMembers profiles))).Perm _ :=
    Setting.mergeInto_perm (Setting.sorted_membersOfToml _).nodup
  have laid := (Setting.membersOfToml_perm distinct').map fun entry =>
    (entry.1, overlaid none entry.2)
  have settings_eq : ((profileMembers profiles).map fun entry => (entry.1, ofToml entry.2)).map
      (fun entry => (entry.1, overlaid none entry.2)) = laidProfiles profiles := by
    rw [profileMembers, laidProfiles, List.map_map, List.map_map]
    rfl
  rw [settings_eq] at laid
  rw [ofToml, overlaid]
  exact decodeAll_perm (merged.trans laid).symm (decodeAll_laidProfiles profiles)

/-! ### Layers -/

theorem find?_saved_layers (config : Config) (name : String) :
    Settings.find? name (layered [standardSettings, membersOfToml config.savedMembers, []]) =
      Setting.laidOver (standardSettings.find? name)
        ((config.savedMembers.lookup name).map ofToml) := by
  rw [find?_layers (Setting.sorted_membersOfToml _) Settings.sorted_nil,
    Setting.find?_membersOfToml]
  rfl

theorem lookup_savedMembers (config : Config) :
    config.savedMembers.lookup defaultProfileName = config.defaultProfile.map .text ∧
      config.savedMembers.lookup defaultsName =
        some (.table (leafMembers config.defaults.entries)) ∧
      config.savedMembers.lookup profilesName = some (.table (profileMembers config.profiles)) := by
  cases stated : config.defaultProfile <;>
    simp only [savedMembers, stated] <;>
      exact ⟨rfl, rfl, rfl⟩

/-- What a file keeps is read back over the standard settings. A configuration without a default
profile gets the standard one, which is selected then anyway. -/
theorem ofSettings_saved {config : Config} (distinct : (namesOf config.profiles).Nodup) :
    ∃ profiles, ofSettings (layered [standardSettings, membersOfToml config.savedMembers, []]) =
      .ok ⟨some (config.defaultProfile.getD standardName), config.defaults, profiles⟩ ∧
        profiles.Perm config.profiles := by
  obtain ⟨profiles, read, perm⟩ := decodeTable_saved distinct
  obtain ⟨savedName, savedDefaults, savedProfiles⟩ := lookup_savedMembers config
  have foundName := find?_saved_layers config defaultProfileName
  have foundDefaults := find?_saved_layers config defaultsName
  have foundProfiles := find?_saved_layers config profilesName
  rw [savedName] at foundName
  rw [savedDefaults] at foundDefaults
  rw [savedProfiles] at foundProfiles
  have name : member text defaultProfileName _ =
      .ok (some (config.defaultProfile.getD standardName)) :=
    member_eq_ok.mpr (by rw [foundName]; cases config.defaultProfile <;> rfl)
  have defaults := member_found foundDefaults (decode_defaults _ config.defaults)
  have table := member_found foundProfiles read
  refine ⟨profiles, ?_, perm⟩
  simp only [ofSettings, bind, Except.bind, name, defaults, table]
  rfl

theorem fileSettings_save {config : Config} (distinct : (namesOf config.profiles).Nodup)
    (fitting : config.FitsWords) (files : Files) (path : String) :
    fileSettings (config.save files path) path = .ok (membersOfToml config.savedMembers) := by
  have text : (config.save files path).readText path = .ok config.toToml := by
    have content : config.save files path path = .ok (Bytes.ofString config.toToml) := if_pos rfl
    have decoded : Bytes.toString? (Bytes.ofString config.toToml) = some config.toToml := by
      rw [Bytes.ofString, Bytes.toString?_ofChars, String.ofList_toList]
    simp only [Files.readText, content, bind, Except.bind, decoded]
    rfl
  rw [fileSettings, text]
  simp only [parse?_toToml distinct fitting]

/-- A configuration is loaded as it was saved, whatever its names and texts: with equal defaults,
with the same profiles, in which what was not set stays so, and with the same profile for each
name and for none. -/
theorem Config.load_save (config : Config) (files : Files) (path : String)
    (environment : Variables) (distinct : (config.profiles.map Prod.fst).Nodup)
    (fitting : config.FitsWords) (lacks : environment.LacksPrefix) :
    ∃ loaded, load (config.save files path) path environment = .ok loaded ∧
      loaded.defaults = config.defaults ∧ loaded.profiles.Perm config.profiles ∧
      ∀ name, loaded.profile name = config.profile name := by
  obtain ⟨profiles, read, perm⟩ := ofSettings_saved distinct
  let loaded : Config := ⟨some (config.defaultProfile.getD standardName), config.defaults, profiles⟩
  have found (name : String) : loaded.find? name = config.find? name :=
    (lookup_perm distinct perm.symm).symm
  have selected (name : Option String) : loaded.selectedName name = config.selectedName name := by
    cases name with
    | some name => rfl
    | none => cases stated : config.defaultProfile <;> simp [loaded, selectedName, stated]
  refine ⟨loaded, ?_, rfl, perm, fun name => ?_⟩
  · rw [load, fileSettings_save distinct fitting, Variables.settings_of_lacksPrefix lacks]
    simp only [bind, Except.bind, read]
    rfl
  · rw [Config.profile, Config.profile, found, selected]

/-- A configuration whose names and texts need quotes and escapes, with no default profile. -/
def Config.unusual : Config where
  defaultProfile := none
  defaults := ⟨least, true, "", greatest⟩
  profiles := [
    ("", .ofEndpoint "https://[::1]:8080"),
    ("lab.west", { Profile.ofEndpoint "a 'literal' \"text\"\nof lines\t" with
      password := some "\x00\x7f\\\"", cipherSuites := some [], verbosity := some (-1) }),
    ("\"quoted\"", { Profile.ofEndpoint "\'\'\'" with
      caCert := some "/été/ca.pem", cipherSuites := some ["", "\r\n"], insecure := some false }),
    ("日本", { Profile.ofEndpoint "\"\"\"\n\'\'\'" with
      authMode := some greatest, group := some "" })]

theorem Config.load_save_unusual : ∃ loaded,
    load (unusual.save .empty "config.toml") "config.toml" [("HOME", "/root")] =
      .ok loaded ∧
    loaded.defaults = unusual.defaults ∧ loaded.profiles.Perm unusual.profiles ∧
    ∀ name, loaded.profile name = unusual.profile name :=
  load_save unusual .empty "config.toml" [("HOME", "/root")] (by decide +kernel)
    (by decide +kernel) (by decide +kernel)

end ClusterRest
