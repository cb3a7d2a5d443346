import ClusterRest.Config.Load
import ClusterRest.Proofs.DecodedSettings
import ClusterRest.Proofs.VariableSettings
import Mathlib.Data.List.Induction

/-! The layers that a configuration is loaded from: the standard settings, a file and variables. -/

namespace ClusterRest

open Setting (overlaid mergeInto)

namespace Setting

theorem overlaid_nest (earlier : Option Setting) (origin : Origin) (setting : Setting)
    (name : String) (path : List String) :
    overlaid earlier (nest origin setting (name :: path)) =
      let members := (earlier.map members).getD []
      .table origin
        (members.put name (overlaid (members.find? name) (nest origin setting path))) := by
  rw [nest, overlaid, mergeInto, mergeInto]

theorem overlaid_none_nest (origin origin' : Origin) (value : Scalar) (path : List String) :
    overlaid none (nest origin (.scalar origin' value) path) =
      nest origin (.scalar origin' value) path := by
  induction path with
  | nil => rfl
  | cons name path ih =>
      rw [overlaid_nest]
      exact congrArg (fun setting => Setting.table origin [(name, setting)]) ih

end Setting

namespace Variables

open Config (defaultProfileName defaultsName profilesName)

/-- Whether a variable gives no part of a configuration. -/
def isForeign (name : String) : Bool :=
  match path? name with
  | some (first :: _) => !([defaultProfileName, defaultsName, profilesName].contains first)
  | _ => true

/-- Variables that give no part of a configuration have no part in what is set of it. -/
theorem find?_settings_filter {environment : Variables} {kept : String × String → Bool}
    (dropped : ∀ entry ∈ environment, kept entry = false → isForeign entry.1 = true)
    {name : String} (isPart : name ∈ [defaultProfileName, defaultsName, profilesName]) :
    (settings (environment.filter kept)).find? name = environment.settings.find? name := by
  induction environment using List.reverseRecOn with
  | nil => rfl
  | append_singleton environment entry ih =>
      have ih := ih fun other member => dropped other (List.mem_append_left _ member)
      rw [List.filter_append, find?_concat]
      cases keeps : kept entry with
      | true => rw [List.filter_cons_of_pos keeps, List.filter_nil, find?_concat, ih]
      | false =>
          have foreign := dropped entry (List.mem_append_right _ (List.mem_singleton_self _)) keeps
          rw [isForeign] at foreign
          rw [List.filter_cons_of_neg (by simp [keeps]), List.filter_nil, List.append_nil, ih]
          split
          next first rest named =>
            rw [named] at foreign
            have other : name ≠ first := by
              rintro rfl
              simp [isPart] at foreign
            rw [if_neg other]
          next => rfl

end Variables

namespace Config

variable {files : Files} {path : String} {settings : Settings} {config : Config}

theorem mergeInto_standard : mergeInto [] standardSettings = standardSettings :=
  rfl

theorem layered_eq (settings given : Settings) :
    layered [standardSettings, settings, given] =
      mergeInto (mergeInto standardSettings settings) given := by
  rw [layered, List.foldl_cons, List.foldl_cons, List.foldl_cons, List.foldl_nil,
    mergeInto_standard]

theorem find?_layers {given : Settings} (sorted : settings.Sorted) (sorted' : given.Sorted)
    (name : String) : (layered [standardSettings, settings, given]).find? name =
      Setting.laidOver (Setting.laidOver (standardSettings.find? name) (settings.find? name))
        (given.find? name) := by
  rw [layered_eq, Setting.find?_mergeInto_laidOver sorted', Setting.find?_mergeInto_laidOver sorted]

theorem sorted_fileSettings (read : fileSettings files path = .ok settings) : settings.Sorted ∧
    ∀ name names setting, (settings.find? name).bind (Setting.at? names) = some setting →
      setting.members.Sorted := by
  rw [fileSettings] at read
  split at read
  · split at read
    · cases read
      exact ⟨.nil, nofun⟩
    · cases read
  · split at read
    · cases read
      refine ⟨Setting.sorted_membersOfToml _, fun name names setting found => ?_⟩
      rw [Setting.find?_membersOfToml] at found
      obtain ⟨inner, held, deeper⟩ := Option.bind_eq_some_iff.mp found
      obtain ⟨value, _, rfl⟩ := Option.map_eq_some_iff.mp held
      exact Setting.sorted_at?_ofToml deeper
    · cases read

/-- The setting of a profile. -/
def profileSetting? (name : String) (settings : Settings) : Option Setting :=
  (settings.find? profilesName).bind (·.members.find? name)

theorem load_eq_ok {environment : Variables} :
    load files path environment = .ok config ↔
      ∃ settings, fileSettings files path = .ok settings ∧
        ofSettings (layered [standardSettings, settings, environment.settings]) = .ok config := by
  rw [load, bind_eq_ok]
  refine exists_congr fun settings => and_congr_right fun _ => ?_
  cases ofSettings (layered [standardSettings, settings, environment.settings]) <;>
    simp [Except.mapError]

/-- Variables that give no part of a configuration do not count when one is loaded. -/
theorem load_filter {environment : Variables} {kept : String × String → Bool}
    (dropped : ∀ entry ∈ environment, kept entry = false → Variables.isForeign entry.1 = true)
    (files : Files) (path : String) :
    load files path (environment.filter kept) = load files path environment := by
  cases read : fileSettings files path with
  | error error => rw [load, load, read]; rfl
  | ok settings =>
      have alike : ofSettings (layered [standardSettings, settings,
            Variables.settings (environment.filter kept)]) =
          ofSettings (layered [standardSettings, settings, environment.settings]) := by
        refine ofSettings_congr fun name isPart => ?_
        rw [find?_layers (sorted_fileSettings read).1 (Variables.sorted_settings _),
          find?_layers (sorted_fileSettings read).1 (Variables.sorted_settings _),
          Variables.find?_settings_filter dropped isPart]
      rw [load, load, read]
      simp only [bind, Except.bind, alike]

/-- The members of a table of profiles in a file, over the empty one of the standard settings. -/
theorem exists_laidProfiles (read : fileSettings files path = .ok settings) : ∃ setting,
    Setting.laidOver (standardSettings.find? profilesName) (settings.find? profilesName) =
      some setting ∧
    setting.members.Sorted ∧
    ∀ name, setting.members.find? name = Setting.laidOver none (profileSetting? name settings) := by
  have standard : standardSettings.find? profilesName = some (.table .builtIn []) := rfl
  have tidy := (sorted_fileSettings read).2 profilesName []
  simp only [profileSetting?, standard]
  cases held : settings.find? profilesName with
  | none => exact ⟨_, rfl, Settings.sorted_nil, fun name => rfl⟩
  | some setting =>
      rw [held] at tidy
      cases setting with
      | scalar | list => exact ⟨_, rfl, Settings.sorted_nil, fun name => rfl⟩
      | table origin later =>
          have sorted : Settings.Sorted later := tidy _ rfl
          refine ⟨_, rfl, Setting.sorted_mergeInto Settings.sorted_nil later, fun name => ?_⟩
          exact Setting.find?_mergeInto_laidOver sorted name

/-- The profiles of a configuration are read from a table, whose members are those of the file with
those of the variables over them. -/
theorem exists_profilesTable {given : Settings} (read : fileSettings files path = .ok settings)
    (sorted : given.Sorted) (tables : ∀ setting, given.find? profilesName = some setting →
      ∃ origin, ∃ members : Settings, setting = .table origin members ∧ members.Sorted)
    (loaded : ofSettings (layered [standardSettings, settings, given]) = .ok config) :
    ∃ origin, ∃ members : Settings,
      (layered [standardSettings, settings, given]).find? profilesName =
        some (.table origin members) ∧
      members.Sorted ∧ Profile.decodeAll members = .ok config.profiles ∧
      ∀ name, members.find? name =
        Setting.laidOver (Setting.laidOver none (profileSetting? name settings))
          (profileSetting? name given) := by
  obtain ⟨laid, laid_eq, sortedLaid, laidMembers⟩ := exists_laidProfiles read
  obtain ⟨_, _, profiles, decoded, same⟩ := ofSettings_eq_ok.mp loaded
  have found := find?_layers (sorted_fileSettings read).1 sorted profilesName
  rw [laid_eq] at found
  have decodes (whole : Setting)
      (whole_eq : Setting.laidOver (some laid) (given.find? profilesName) = some whole) :
      Profile.decodeTable whole = .ok config.profiles := by
    rw [member_eq_ok, found, whole_eq] at decoded
    cases profiles with
    | none => cases decoded
    | some profiles =>
        rw [same]
        exact Option.some.inj decoded
  cases held : given.find? profilesName with
  | none =>
      rw [held] at found decodes
      have decoded := decodes laid rfl
      cases laid with
      | scalar | list => cases decoded
      | table origin members =>
          refine ⟨origin, members, found, sortedLaid, decoded, fun name => ?_⟩
          have unset : profileSetting? name given = none := by
            rw [profileSetting?, held]
            rfl
          rw [unset]
          exact laidMembers name
  | some setting =>
      rw [held] at found decodes
      obtain ⟨origin, later, rfl, sortedLater⟩ := tables setting held
      refine ⟨origin, mergeInto laid.members later, found,
        Setting.sorted_mergeInto sortedLaid later, decodes _ rfl, fun name => ?_⟩
      have set : profileSetting? name given = later.find? name := by
        rw [profileSetting?, held]
        rfl
      rw [Setting.find?_mergeInto_laidOver sortedLater, laidMembers, set]

end Config

end ClusterRest
