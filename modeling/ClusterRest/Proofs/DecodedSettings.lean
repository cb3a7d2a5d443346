import ClusterRest.Config.Decode
import ClusterRest.Proofs.MergedSettings
import ClusterRest.Proofs.Outcomes

/-!
What the members of a table are read as: each field by itself, a whole profile, and the profiles of
a table.
-/

namespace ClusterRest

open Decoder

/-! ### Members -/

section

variable {α : Type} {decode : Decoder α} {name : String} {members : Settings} {setting : Setting}

theorem member_found {value : α} (found : members.find? name = some setting)
    (decoded : decode setting = .ok value) : member decode name members = .ok (some value) := by
  simp only [member, found, decoded]
  rfl

/-- What may be there is read if it is, and then has to be right. -/
theorem within_map_eq_ok (found : Option Setting) {value : Option α} :
    (match found with
      | some setting => within name ((decode setting).map some)
      | none => .ok none) = .ok value ↔ found.map decode = value.map .ok := by
  cases found with
  | none => cases value <;> simp
  | some setting => cases decoded : decode setting <;> cases value <;>
      simp [decoded, within, Except.map, Except.mapError]

theorem member_eq_ok {value : Option α} :
    member decode name members = .ok value ↔
      (members.find? name).map decode = value.map .ok := within_map_eq_ok _

theorem element_eq_ok {index : Nat} {elements : List Setting} {value : Option α} :
    element decode index elements = .ok value ↔
      elements[index]?.map decode = value.map .ok := within_map_eq_ok _

theorem member_put (decode : Decoder α) (name other : String) (setting : Setting)
    (members : Settings) :
    member decode name (members.put other setting) =
      if name = other then within other ((decode setting).map some)
      else member decode name members := by
  rw [member, Settings.find?_put]
  by_cases same : name = other
  · rw [if_pos same, if_pos same, same]
  · rw [if_neg same, if_neg same]
    rfl

end

/-! ### Profiles -/

namespace Profile

/-- The members of a table read as the fields of a profile, whose endpoint may be missing. -/
structure Reads (members : Settings) (endpoint : Option String) (profile : Profile) : Prop where
  endpoint : member text "endpoint" members = .ok endpoint
  username : member text "username" members = .ok profile.username
  password : member text "password" members = .ok profile.password
  group : member text "group" members = .ok profile.group
  authMode : member integer "auth_mode" members = .ok profile.authMode
  insecure : member boolean "insecure" members = .ok profile.insecure
  caCert : member path "ca_cert" members = .ok profile.caCert
  minTlsVersion : member text "min_tls_version" members = .ok profile.minTlsVersion
  maxTlsVersion : member text "max_tls_version" members = .ok profile.maxTlsVersion
  cipherSuites : member texts "cipher_suites" members = .ok profile.cipherSuites
  timeout : member text "timeout" members = .ok profile.timeout
  volumesPath : member text "volumes_path" members = .ok profile.volumesPath
  volumesPathPermissions :
    member text "volumes_path_permissions" members = .ok profile.volumesPathPermissions
  ignoreUnresolvableHosts :
    member boolean "ignore_unresolvable_hosts" members = .ok profile.ignoreUnresolvableHosts
  verbosity : member integer "verbosity" members = .ok profile.verbosity

variable {origin : Origin} {members : Settings} {endpoint : Option String} {profile : Profile}

/-- A profile with its endpoint, which it cannot do without. -/
def completed (origin : Origin) (profile : Profile) : (endpoint : Option String) →
    Except Misfit Profile
  | none => .error ⟨origin, [], .missingField endpointName⟩
  | some endpoint => .ok { profile with endpoint }

theorem Reads.ofTable_eq (reads : Reads members endpoint profile) :
    ofTable origin members = completed origin profile endpoint := by
  simp only [ofTable, endpointName, bind, Except.bind, reads.endpoint, reads.username,
    reads.password, reads.group, reads.authMode, reads.insecure, reads.caCert, reads.minTlsVersion,
    reads.maxTlsVersion, reads.cipherSuites, reads.timeout, reads.volumesPath,
    reads.volumesPathPermissions, reads.ignoreUnresolvableHosts, reads.verbosity]
  cases endpoint <;> rfl

theorem ofTable_eq_ok :
    ofTable origin members = .ok profile ↔ Reads members (some profile.endpoint) profile := by
  constructor
  · intro decoded
    simp only [ofTable, bind_eq_ok] at decoded
    obtain ⟨_, authMode, _, caCert, _, cipherSuites, endpoint?, endpoint, _, group, _,
      ignoreUnresolvableHosts, _, insecure, _, maxTlsVersion, _, minTlsVersion, _, password, _,
      timeout, _, username, _, verbosity, _, volumesPath, _, volumesPathPermissions, whole⟩ :=
        decoded
    cases endpoint? with
    | none => cases whole
    | some _ =>
        cases whole
        exact ⟨endpoint, username, password, group, authMode, insecure, caCert, minTlsVersion,
          maxTlsVersion, cipherSuites, timeout, volumesPath, volumesPathPermissions,
          ignoreUnresolvableHosts, verbosity⟩
  · intro reads
    exact reads.ofTable_eq

/-- A table without members reads as a profile that has nothing set. -/
theorem reads_nil (endpoint : String) : Reads [] none (ofEndpoint endpoint) := by
  constructor <;> rfl

end Profile

/-! ### Tables of profiles -/

namespace Profile

variable {members : Settings} {profiles : List (String × Profile)}

theorem decodeAll_cons {name : String} {setting : Setting} :
    decodeAll ((name, setting) :: members) = .ok profiles ↔
      ∃ profile others, decode setting = .ok profile ∧ decodeAll members = .ok others ∧
        profiles = (name, profile) :: others := by
  rw [decodeAll]
  cases decode setting with
  | error misfit =>
      constructor
      · rintro ⟨⟩
      · rintro ⟨_, _, ⟨⟩, _⟩
  | ok profile =>
      cases decodeAll members with
      | error misfit =>
          constructor
          · rintro ⟨⟩
          · rintro ⟨_, _, _, ⟨⟩, _⟩
      | ok others =>
          constructor
          · rintro ⟨⟩
            exact ⟨profile, others, rfl, rfl, rfl⟩
          · rintro ⟨_, _, ⟨⟩, ⟨⟩, rfl⟩
            rfl

/-- Each profile is read from the member of its name. -/
theorem lookup_decodeAll (decoded : decodeAll members = .ok profiles) (name : String) :
    (members.find? name).map decode = (profiles.lookup name).map .ok := by
  induction members generalizing profiles with
  | nil =>
      cases decoded
      rfl
  | cons entry members ih =>
      obtain ⟨profile, others, head, rest, rfl⟩ := decodeAll_cons.mp decoded
      have later := ih rest
      rw [Settings.find?] at later
      rw [Settings.find?, lookup_cons, lookup_cons]
      by_cases same : name = entry.1
      · rw [if_pos same, if_pos same, Option.map_some, Option.map_some, head]
      · rw [if_neg same, if_neg same, later]

theorem namesOf_decodeAll (decoded : decodeAll members = .ok profiles) :
    namesOf profiles = namesOf members := by
  induction members generalizing profiles with
  | nil =>
      cases decoded
      rfl
  | cons entry members ih =>
      obtain ⟨profile, others, _, rest, rfl⟩ := decodeAll_cons.mp decoded
      exact congrArg (entry.1 :: ·) (ih rest)

/-- The profiles with another one in the place of those with a name. -/
def putAt (name : String) (profile : Profile) (profiles : List (String × Profile)) :
    List (String × Profile) :=
  profiles.map fun entry => (entry.1, if entry.1 = name then profile else entry.2)

theorem putAt_absent {name : String} (absent : name ∉ namesOf profiles) (profile : Profile) :
    putAt name profile profiles = profiles := by
  refine (List.map_congr_left fun entry member => ?_).trans (List.map_id' profiles)
  have other : entry.1 ≠ name := fun same => absent (same ▸ List.mem_map_of_mem member)
  rw [if_neg other]

/-- Another setting in the place of a member changes the profile that is read from it. -/
theorem decodeAll_put (sorted : members.Sorted) (decoded : decodeAll members = .ok profiles)
    {name : String} (listed : name ∈ namesOf members) (setting : Setting) :
    decodeAll (members.put name setting) =
      (within name (decode setting)).map (putAt name · profiles) := by
  induction members generalizing profiles with
  | nil => cases listed
  | cons entry members ih =>
      obtain ⟨first, old⟩ := entry
      obtain ⟨least, rest⟩ := List.pairwise_cons.mp sorted
      obtain ⟨profile, others, head, tail, rfl⟩ := decodeAll_cons.mp decoded
      rw [Settings.put]
      by_cases same : name = first
      · subst same
        have absent : name ∉ namesOf others := by
          rw [namesOf_decodeAll tail]
          exact fun member => absurd (least name member) (String.lt_irrefl name)
        rw [if_pos rfl, decodeAll, tail]
        cases decode setting with
        | error misfit => rfl
        | ok changed =>
            have kept := putAt_absent absent changed
            simp only [within, Except.mapError, bind, Except.bind, Except.map, putAt,
              List.map_cons, if_true] at kept ⊢
            rw [kept]
            rfl
      · have later : name ∈ namesOf members := (List.mem_cons.mp listed).resolve_left same
        have after : ¬ name < first := String.lt_asymm (least name later)
        rw [if_neg same, if_neg after, decodeAll, head, ih rest tail later]
        cases decode setting with
        | error misfit => rfl
        | ok changed =>
            simp only [within, Except.mapError, bind, Except.bind, Except.map, putAt,
              List.map_cons, if_neg (Ne.symm same)]
            rfl

end Profile

/-! ### Configurations -/

namespace Config

variable {settings : Settings} {config : Config}

theorem ofSettings_eq_ok : ofSettings settings = .ok config ↔
    member text defaultProfileName settings = .ok config.defaultProfile ∧
    (∃ defaults, member Defaults.decode defaultsName settings = .ok defaults ∧
      config.defaults = defaults.getD .standard) ∧
    ∃ profiles, member Profile.decodeTable profilesName settings = .ok profiles ∧
      config.profiles = profiles.getD [] := by
  simp only [ofSettings, bind_eq_ok]
  constructor
  · rintro ⟨_, name, _, defaults, _, profiles, ⟨⟩⟩
    exact ⟨name, ⟨_, defaults, rfl⟩, _, profiles, rfl⟩
  · rintro ⟨name, ⟨_, defaults, same⟩, _, profiles, same'⟩
    refine ⟨_, name, _, defaults, _, profiles, ?_⟩
    rw [← same, ← same']
    rfl

theorem ofSettings_put_profiles (read : ofSettings settings = .ok config) (setting : Setting) :
    ofSettings (settings.put profilesName setting) =
      (within profilesName (Profile.decodeTable setting)).map ({ config with profiles := · }) := by
  obtain ⟨name, ⟨defaults, read, same⟩, _⟩ := ofSettings_eq_ok.mp read
  have name' : member text defaultProfileName (settings.put profilesName setting) = _ :=
    (member_put _ _ _ _ _).trans (if_neg (by decide))
  have read' : member Defaults.decode defaultsName (settings.put profilesName setting) = _ :=
    (member_put _ _ _ _ _).trans (if_neg (by decide))
  have profiles : member Profile.decodeTable profilesName (settings.put profilesName setting) = _ :=
    (member_put _ _ _ _ _).trans (if_pos rfl)
  simp only [ofSettings, bind, Except.bind, name', name, read', read, profiles]
  cases Profile.decodeTable setting with
  | error misfit => rfl
  | ok profiles =>
      rw [same]
      rfl

theorem ofSettings_congr {settings settings' : Settings}
    (same : ∀ name ∈ [defaultProfileName, defaultsName, profilesName],
      settings.find? name = settings'.find? name) :
    ofSettings settings = ofSettings settings' := by
  have defaultProfile := same defaultProfileName (by simp)
  have defaults := same defaultsName (by simp)
  have profiles := same profilesName (by simp)
  simp only [ofSettings, Decoder.member, defaultProfile, defaults, profiles]

end Config

end ClusterRest
