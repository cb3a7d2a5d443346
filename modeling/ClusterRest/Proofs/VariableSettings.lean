import ClusterRest.Config.Variables
import ClusterRest.Proofs.MergedSettings

/-! Settings of environment variables, one variable after the other. -/

namespace ClusterRest.Variables

/-- The settings after one more variable. -/
def setOver (earlier : Settings) (entry : String × String) : Settings :=
  match path? entry.1 with
  | some (first :: path) =>
    Setting.mergeInto earlier [(first, Setting.nest .environment (settingOf entry.2) path)]
  | _ => earlier

theorem settings_eq (environment : Variables) :
    environment.settings = environment.foldl setOver [] := rfl

theorem find?_setOver (earlier : Settings) (entry : String × String) (key : String) :
    (setOver earlier entry).find? key =
      match path? entry.1 with
      | some (first :: path) =>
        if key = first then
          some (Setting.overlaid (earlier.find? key)
            (Setting.nest .environment (settingOf entry.2) path))
        else earlier.find? key
      | _ => earlier.find? key := by
  rw [setOver]
  split
  next first path _ =>
    have single : (namesOf [(first, Setting.nest .environment (settingOf entry.2) path)]).Nodup :=
      List.nodup_singleton first
    rw [Setting.find?_mergeInto single, lookup_cons]
    by_cases same : key = first
    · rw [if_pos same, if_pos same]
    · rw [if_neg same, if_neg same]
      rfl
  next => rfl

theorem sorted_setOver {earlier : Settings} (sorted : earlier.Sorted) (entry : String × String) :
    (setOver earlier entry).Sorted := by
  rw [setOver]
  split
  · exact Setting.sorted_mergeInto sorted _
  · exact sorted

theorem sorted_settings (environment : Variables) : environment.settings.Sorted := by
  rw [settings_eq]
  exact List.foldlRecOn environment setOver .nil fun _ sorted entry _ =>
    sorted_setOver sorted entry

theorem settings_concat (environment : Variables) (entry : String × String) :
    settings (environment ++ [entry]) = setOver environment.settings entry := by
  rw [settings_eq, settings_eq, List.foldl_append, List.foldl_cons, List.foldl_nil]

/-- What is set under a name after one more variable. -/
theorem find?_concat (environment : Variables) (entry : String × String) (first : String) :
    (settings (environment ++ [entry])).find? first =
      match path? entry.1 with
      | some (name :: rest) =>
        if first = name then
          some (Setting.overlaid (environment.settings.find? first)
            (Setting.nest .environment (settingOf entry.2) rest))
        else environment.settings.find? first
      | _ => environment.settings.find? first := by
  rw [settings_concat, find?_setOver]

/-- No variable has the prefix of those that set something, in whatever case it is written. -/
def LacksPrefix (environment : Variables) : Prop :=
  ∀ entry ∈ environment, afterPrefix? (Text.trim entry.1) = none

instance (environment : Variables) : Decidable environment.LacksPrefix :=
  inferInstanceAs (Decidable (∀ entry ∈ environment, afterPrefix? (Text.trim entry.1) = none))

theorem foldl_setOver_of_lacksPrefix {environment : Variables} (lacks : environment.LacksPrefix)
    (earlier : Settings) : environment.foldl setOver earlier = earlier := by
  induction environment with
  | nil => rfl
  | cons entry environment ih =>
      obtain ⟨first, others⟩ := List.forall_mem_cons.mp lacks
      have unset : path? entry.1 = none := by
        rw [path?, first]
        rfl
      rw [List.foldl_cons, setOver, unset]
      exact ih others

theorem settings_of_lacksPrefix {environment : Variables} (lacks : environment.LacksPrefix) :
    environment.settings = [] := foldl_setOver_of_lacksPrefix lacks []

/-- Where a single variable has the prefix, it gives all settings. -/
theorem settings_of_single {front back : Variables} (lacks : (front ++ back).LacksPrefix)
    (entry : String × String) : settings (front ++ entry :: back) = setOver [] entry := by
  obtain ⟨before, after⟩ := List.forall_mem_append.mp lacks
  rw [settings_eq, List.foldl_append, List.foldl_cons, foldl_setOver_of_lacksPrefix before,
    foldl_setOver_of_lacksPrefix after]

end ClusterRest.Variables
