import ClusterRest.Config.Load
import ClusterRest.Proofs.MergedSettings
import ClusterRest.Proofs.Toml.Documents

/-!
The document that keeps a configuration. Its tables are opened one after the other, none of them in
place of another, so that its members are those of the configuration.

Main statement: `Config.parse?_toToml`.
-/

namespace ClusterRest

namespace Toml

/-! ### The tables of a document -/

namespace Nodes

variable {name : String} {node old : Node} {nodes : Nodes}

theorem find?_absent (absent : name ∉ namesOf nodes) : nodes.find? name = none := by
  induction nodes with
  | nil => rfl
  | cons entry nodes ih =>
      obtain ⟨different, absent⟩ := not_or.mp (List.mem_cons.not.mp absent)
      rw [find?, if_neg (Ne.symm different), ih absent]

theorem set_absent (absent : name ∉ namesOf nodes) :
    nodes.set name node = nodes ++ [(name, node)] := by
  induction nodes with
  | nil => rfl
  | cons entry nodes ih =>
      obtain ⟨different, absent⟩ := not_or.mp (List.mem_cons.not.mp absent)
      rw [set, if_neg (Ne.symm different), ih absent]
      rfl

theorem find?_last (absent : name ∉ namesOf nodes) :
    Nodes.find? name (nodes ++ [(name, node)]) = some node := by
  induction nodes with
  | nil => exact if_pos rfl
  | cons entry nodes ih =>
      obtain ⟨different, absent⟩ := not_or.mp (List.mem_cons.not.mp absent)
      rw [List.cons_append, find?, if_neg (Ne.symm different), ih absent]

theorem set_last (absent : name ∉ namesOf nodes) :
    Nodes.set name node (nodes ++ [(name, old)]) = nodes ++ [(name, node)] := by
  induction nodes with
  | nil => exact if_pos rfl
  | cons entry nodes ih =>
      obtain ⟨different, absent⟩ := not_or.mp (List.mem_cons.not.mp absent)
      rw [List.cons_append, set, if_neg (Ne.symm different), ih absent]
      rfl

end Nodes

theorem membersOf_eq (nodes : Nodes) :
    membersOf nodes = nodes.map fun (name, node) => (name, node.toValue) := by
  induction nodes with
  | nil => rfl
  | cons entry nodes ih => rw [membersOf, ih, List.map_cons]

/-- The nodes that entries make. -/
def entryNodes (entries : List (String × Leaf)) : Nodes :=
  entries.map fun (name, leaf) => (name, .value leaf.toValue)

theorem namesOf_entryNodes (entries : List (String × Leaf)) :
    namesOf (entryNodes entries) = namesOf entries := by
  rw [namesOf, entryNodes, List.map_map]
  rfl

theorem foldlM_addEntry {entries : List (String × Leaf)} {draft : Draft}
    (distinct : (namesOf entries).Nodup)
    (fresh : ∀ name ∈ namesOf entries, name ∉ namesOf draft.current) :
    entries.foldlM Draft.addEntry draft =
      some { draft with current := draft.current ++ entryNodes entries } := by
  induction entries generalizing draft with
  | nil => simp [entryNodes]
  | cons entry entries ih =>
      obtain ⟨name, leaf⟩ := entry
      obtain ⟨unlisted, distinct⟩ := List.nodup_cons.mp distinct
      have absent := fresh name List.mem_cons_self
      have added : draft.addEntry (name, leaf) =
          some { draft with current := draft.current ++ [(name, .value leaf.toValue)] } := by
        simp [Draft.addEntry, Draft.add, Nodes.addDotted, Nodes.find?_absent absent,
          Nodes.set_absent absent]
      have fresh' : ∀ other ∈ namesOf entries,
          other ∉ namesOf (draft.current ++ [(name, .value leaf.toValue)]) := by
        intro other listed member
        rw [namesOf, List.map_append] at member
        rcases List.mem_append.mp member with held | last
        · exact fresh other (List.mem_cons_of_mem _ listed) held
        · exact unlisted (List.mem_singleton.mp last ▸ listed)
      rw [List.foldlM_cons, added, Option.bind_eq_bind, Option.bind_some, ih distinct fresh']
      simp [entryNodes]

theorem Draft.finish_headed {root current : Nodes} {path : List String} {isElement : Bool}
    (headed : path ≠ []) :
    Draft.finish ⟨root, path, isElement, current⟩ = Nodes.place isElement current path root := by
  rw [finish, if_neg (by simpa using headed)]

/-- A table that nothing precedes is opened and filled. -/
theorem addSection_new {draft : Draft} {root : Nodes} {table : Section} (headed : table.path ≠ [])
    (finished : draft.finish = some root) (unlocated : Nodes.locate? table.path root = some none)
    (distinct : (namesOf table.entries).Nodup) :
    draft.addSection table = some ⟨root, table.path, false, entryNodes table.entries⟩ := by
  have opened : draft.openTable table.path = some ⟨root, table.path, false, []⟩ := by
    simp [Draft.openTable, finished, unlocated]
  have filled := @foldlM_addEntry _ ⟨root, table.path, false, []⟩ distinct
    (fun _ _ => List.not_mem_nil)
  rw [Draft.addSection, if_neg (by simpa using headed), opened, Option.bind_some, filled]
  rfl

end Toml

open Toml

/-- The integers of a profile fit 64 bits. -/
structure Profile.FitsWords (profile : Profile) : Prop where
  authMode : ∀ number ∈ profile.authMode, fits number = true
  verbosity : ∀ number ∈ profile.verbosity, fits number = true

instance (profile : Profile) : Decidable profile.FitsWords :=
  decidable_of_iff ((∀ number ∈ profile.authMode, fits number = true) ∧
    ∀ number ∈ profile.verbosity, fits number = true)
    ⟨fun ⟨authMode, verbosity⟩ => ⟨authMode, verbosity⟩,
      fun fitting => ⟨fitting.authMode, fitting.verbosity⟩⟩

namespace Config

/-- The tables of profiles. -/
def profileTables (profiles : List (String × Profile)) : Nodes :=
  profiles.map fun (name, profile) => (name, .table false false (entryNodes profile.entries))

/-- The root of a document after profiles are added. -/
def withProfiles (root : Nodes) : List (String × Profile) → Nodes
  | [] => root
  | profiles => root ++ [(profilesName, .table true false (profileTables profiles))]

theorem namesOf_profileTables (profiles : List (String × Profile)) :
    namesOf (profileTables profiles) = namesOf profiles := by
  rw [namesOf, profileTables, List.map_map]
  rfl

section

variable {root : Nodes} (unprofiled : profilesName ∉ namesOf root)
  {profiles : List (String × Profile)} {name : String} (absent : name ∉ namesOf profiles)

include unprofiled absent

theorem locate?_profile :
    Nodes.locate? [profilesName, name] (withProfiles root profiles) = some none := by
  cases profiles with
  | nil => simp [withProfiles, Nodes.locate?, Nodes.find?_absent unprofiled]
  | cons first others =>
      rw [← namesOf_profileTables] at absent
      simp [withProfiles, Nodes.locate?, Nodes.find?_last unprofiled, Nodes.find?_absent absent]

theorem place_profile (profile : Profile) :
    Nodes.place false (entryNodes profile.entries) [profilesName, name]
      (withProfiles root profiles) = some (withProfiles root (profiles ++ [(name, profile)])) := by
  cases profiles with
  | nil =>
      simp [withProfiles, Nodes.place, Nodes.find?_absent unprofiled, Nodes.set_absent unprofiled,
        Nodes.set, profileTables]
  | cons first others =>
      rw [← namesOf_profileTables] at absent
      have set_eq := @Nodes.set_absent name (.table false false (entryNodes profile.entries)) _
        absent
      have tables_eq : profileTables (first :: others ++ [(name, profile)]) = _ ++ _ :=
        List.map_append
      have root_eq : withProfiles root (first :: others ++ [(name, profile)]) =
          root ++ [(profilesName,
            .table true false (profileTables (first :: others ++ [(name, profile)])))] :=
        rfl
      rw [root_eq, tables_eq]
      simp only [withProfiles, Nodes.place, Nodes.find?_last unprofiled, set_eq,
        Nodes.set_last unprofiled]
      rfl

end

theorem sublist_entryOf {α : Type} {entries : List (String × Leaf)} {names : List String}
    (front : (namesOf entries).Sublist names) {name : String} {leaf : α → Leaf} {field : Option α} :
    (namesOf (entries ++ entryOf name leaf field)).Sublist (names ++ [name]) := by
  rw [namesOf, List.map_append]
  refine front.append ?_
  cases field with
  | none => exact List.nil_sublist _
  | some value => exact .refl _

/-- The fields of a profile have different names. -/
theorem distinct_entries (profile : Profile) : (namesOf profile.entries).Nodup := by
  have sublist : (namesOf profile.entries).Sublist (["endpoint"] ++ ["username"] ++ ["password"] ++
      ["group"] ++ ["auth_mode"] ++ ["insecure"] ++ ["ca_cert"] ++ ["min_tls_version"] ++
      ["max_tls_version"] ++ ["cipher_suites"] ++ ["timeout"] ++ ["volumes_path"] ++
      ["volumes_path_permissions"] ++ ["ignore_unresolvable_hosts"] ++ ["verbosity"]) := by
    iterate 14 apply sublist_entryOf
    exact .refl _
  exact sublist.nodup (by decide)

/-- The table of a profile in a document. -/
def profileSection (entry : String × Profile) : Section :=
  ⟨[profilesName, entry.1], entry.2.entries⟩

theorem foldlM_profiles {root : Nodes} (unprofiled : profilesName ∉ namesOf root)
    {added rest : List (String × Profile)} (distinct : (namesOf (added ++ rest)).Nodup)
    {draft : Draft} (finished : draft.finish = some (withProfiles root added)) :
    ∃ next, (rest.map profileSection).foldlM Draft.addSection draft = some next ∧
      next.finish = some (withProfiles root (added ++ rest)) := by
  induction rest generalizing added draft with
  | nil => exact ⟨draft, rfl, by rwa [List.append_nil]⟩
  | cons entry rest ih =>
      obtain ⟨name, profile⟩ := entry
      have absent : name ∉ namesOf added := absent_of_distinct distinct
      have opened : Draft.addSection draft (profileSection (name, profile)) = some _ :=
        addSection_new (List.cons_ne_nil _ _) finished (locate?_profile unprofiled absent)
          (distinct_entries profile)
      have placed : Draft.finish ⟨withProfiles root added, [profilesName, name], false,
          entryNodes profile.entries⟩ = some (withProfiles root (added ++ [(name, profile)])) :=
        (Draft.finish_headed (List.cons_ne_nil _ _)).trans (place_profile unprofiled absent profile)
      rw [List.append_cons] at distinct ⊢
      obtain ⟨next, folded, final⟩ := ih distinct placed
      refine ⟨next, ?_, final⟩
      rw [List.map_cons, List.foldlM_cons, opened]
      exact folded

/-- The members of entries. -/
def leafMembers (entries : List (String × Leaf)) : Members :=
  entries.map fun (name, leaf) => (name, leaf.toValue)

/-- The members that keep profiles. -/
def profileMembers (profiles : List (String × Profile)) : Members :=
  profiles.map fun (name, profile) => (name, .table (leafMembers profile.entries))

/-- What the file of a configuration says. -/
def savedMembers (config : Config) : Members :=
  leafMembers (entryOf defaultProfileName .text config.defaultProfile) ++
    [(defaultsName, .table (leafMembers config.defaults.entries)),
      (profilesName, .table (profileMembers config.profiles))]

theorem membersOf_entryNodes (entries : List (String × Leaf)) :
    membersOf (entryNodes entries) = leafMembers entries := by
  rw [membersOf_eq, entryNodes, leafMembers, List.map_map]
  rfl

theorem membersOf_profileTables (profiles : List (String × Profile)) :
    membersOf (profileTables profiles) = profileMembers profiles := by
  rw [membersOf_eq, profileTables, List.map_map]
  refine List.map_congr_left fun entry _ => ?_
  exact congrArg (fun members => (entry.1, Value.table members)) (membersOf_entryNodes _)

/-- The root of a document before its profiles. -/
def savedRoot (config : Config) : Nodes :=
  entryNodes (entryOf defaultProfileName .text config.defaultProfile) ++
    [(defaultsName, .table false false (entryNodes config.defaults.entries))]

theorem namesOf_savedRoot (config : Config) :
    (namesOf config.savedRoot).Sublist [defaultProfileName, defaultsName] := by
  have names_eq : namesOf config.savedRoot =
      namesOf (entryOf defaultProfileName .text config.defaultProfile) ++ [defaultsName] := by
    rw [savedRoot, namesOf, List.map_append, ← namesOf, namesOf_entryNodes]
    rfl
  have unnamed : (namesOf ([] : List (String × Leaf))).Sublist [] := .refl _
  have front : (namesOf ([] ++ entryOf defaultProfileName .text config.defaultProfile)).Sublist
      ([] ++ [defaultProfileName]) := sublist_entryOf unnamed
  rw [names_eq]
  exact front.append (.refl [defaultsName])

/-- The tables of a configuration before those of its profiles. -/
def frontSections (config : Config) : List Section :=
  (config.defaultProfile.map fun name => ⟨[], [(defaultProfileName, .text name)]⟩).toList ++
    [⟨[defaultsName], config.defaults.entries⟩]

theorem sections_eq (config : Config) :
    config.sections = config.frontSections ++ profileSections config.profiles := rfl

theorem foldlM_frontSections (config : Config) : ∃ draft,
    config.frontSections.foldlM Draft.addSection .empty = some draft ∧
      draft.finish = some config.savedRoot := by
  let front := entryNodes (entryOf defaultProfileName .text config.defaultProfile)
  have undefaulted : defaultsName ∉ namesOf front := by
    cases stated : config.defaultProfile <;>
      simp [front, stated, entryOf, entryNodes, namesOf, defaultsName, defaultProfileName]
  have start : (config.defaultProfile.map fun name =>
      (⟨[], [(defaultProfileName, .text name)]⟩ : Section)).toList.foldlM Draft.addSection .empty =
        some ⟨[], [], false, front⟩ := by
    cases stated : config.defaultProfile <;> simp only [front, stated] <;> rfl
  have defaults :
      Draft.addSection ⟨[], [], false, front⟩ ⟨[defaultsName], config.defaults.entries⟩ =
        some ⟨front, [defaultsName], false, entryNodes config.defaults.entries⟩ := by
    refine addSection_new (List.cons_ne_nil _ _) rfl ?_ (by simp [namesOf, Defaults.entries])
    exact congrArg some (Nodes.find?_absent undefaulted)
  have finished : Draft.finish ⟨front, [defaultsName], false, entryNodes config.defaults.entries⟩ =
      some config.savedRoot := congrArg some (Nodes.set_absent undefaulted)
  refine ⟨_, ?_, finished⟩
  rw [frontSections, List.foldlM_append, start]
  simp [defaults]

theorem foldlM_sections (config : Config) (distinct : (namesOf config.profiles).Nodup) :
    ∃ draft root, config.sections.foldlM Draft.addSection .empty = some draft ∧
      draft.finish = some root ∧ membersOf root = config.savedMembers := by
  obtain ⟨draft, front, finished⟩ := foldlM_frontSections config
  have unprofiled : profilesName ∉ namesOf config.savedRoot := fun member =>
    absurd ((namesOf_savedRoot config).subset member) (by decide)
  have members (isImplied : Bool) : membersOf (config.savedRoot ++
      [(profilesName, .table isImplied false (profileTables config.profiles))]) =
        config.savedMembers := by
    rw [membersOf_eq, savedRoot, savedMembers, ← membersOf_entryNodes, ← membersOf_entryNodes,
      ← membersOf_profileTables, membersOf_eq (entryNodes (entryOf _ _ _))]
    simp [Node.toValue]
  rw [sections_eq, List.foldlM_append, front]
  cases profiles_eq : config.profiles with
  | nil =>
      rw [profiles_eq] at members
      have opened : Draft.addSection draft ⟨[profilesName], []⟩ =
          some ⟨config.savedRoot, [profilesName], false, []⟩ :=
        addSection_new (List.cons_ne_nil _ _) finished
          (congrArg some (Nodes.find?_absent unprofiled)) List.nodup_nil
      have final : Draft.finish ⟨config.savedRoot, [profilesName], false, []⟩ =
          some (config.savedRoot ++ [(profilesName, .table false false (profileTables []))]) :=
        congrArg some (Nodes.set_absent unprofiled)
      refine ⟨_, _, ?_, final, members false⟩
      change [(⟨[profilesName], []⟩ : Section)].foldlM Draft.addSection draft = _
      rw [List.foldlM_cons, opened]
      rfl
  | cons first others =>
      rw [profiles_eq] at distinct members
      obtain ⟨next, folded, final⟩ := @foldlM_profiles _ unprofiled [] _ distinct _ finished
      exact ⟨next, _, folded, final, members true⟩

/-! ### Integers of words -/

theorem forall_entryOf {α : Type} {property : String × Leaf → Prop} {name : String}
    {leaf : α → Leaf} {field : Option α} : (∀ entry ∈ entryOf name leaf field, property entry) ↔
      ∀ value ∈ field, property (name, leaf value) := by
  cases field <;> simp [entryOf]

theorem fits_entries {profile : Profile} (fitting : profile.FitsWords) :
    ∀ entry ∈ profile.entries, entry.2.Fits := by
  simp only [Profile.entries, List.forall_mem_append, List.forall_mem_singleton, forall_entryOf,
    Leaf.Fits, implies_true, true_and, and_true]
  exact ⟨fitting.authMode, fitting.verbosity⟩

/-- The integers of a configuration fit 64 bits. -/
structure FitsWords (config : Config) : Prop where
  authMode : fits config.defaults.authMode = true
  verbosity : fits config.defaults.verbosity = true
  profiles : ∀ entry ∈ config.profiles, entry.2.FitsWords

instance (config : Config) : Decidable config.FitsWords :=
  decidable_of_iff (fits config.defaults.authMode = true ∧ fits config.defaults.verbosity = true ∧
    ∀ entry ∈ config.profiles, entry.2.FitsWords)
    ⟨fun ⟨authMode, verbosity, profiles⟩ => ⟨authMode, verbosity, profiles⟩,
      fun fitting => ⟨fitting.authMode, fitting.verbosity, fitting.profiles⟩⟩

theorem isReadable_sections {config : Config} (fitting : config.FitsWords) :
    ∀ table ∈ config.sections, table.IsReadable := by
  intro table listed
  rw [sections_eq, List.mem_append, frontSections, List.mem_append, List.mem_singleton] at listed
  rcases listed with (root | rfl) | profile
  · obtain ⟨name, -, rfl⟩ := Option.map_eq_some_iff.mp (Option.mem_toList.mp root)
    exact ⟨by simp [depthLimit], List.forall_mem_singleton.mpr trivial⟩
  · refine ⟨by simp [depthLimit], ?_⟩
    simp [Defaults.entries, Leaf.Fits, fitting.authMode, fitting.verbosity]
  · cases profiles_eq : config.profiles with
    | nil =>
        rw [profiles_eq] at profile
        obtain rfl := List.mem_singleton.mp profile
        exact ⟨by decide, List.forall_mem_nil _⟩
    | cons first others =>
        rw [profiles_eq] at profile
        obtain ⟨entry, held, rfl⟩ := List.mem_map.mp profile
        refine ⟨by simp [depthLimit], fits_entries (fitting.profiles entry ?_)⟩
        rwa [profiles_eq]

/-- The file of a configuration is read back as what it was written from. -/
theorem parse?_toToml {config : Config} (distinct : (namesOf config.profiles).Nodup)
    (fitting : config.FitsWords) : parse? config.toToml = some config.savedMembers := by
  obtain ⟨draft, root, folded, finished, members⟩ := foldlM_sections config distinct
  rw [toToml, parse?_written (isReadable_sections fitting) folded, finished, Option.map_some,
    members]

end Config

end ClusterRest
