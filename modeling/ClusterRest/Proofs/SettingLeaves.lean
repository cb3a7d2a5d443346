import ClusterRest.Proofs.DecodedSettings

/-!
Leaves of settings. What a decoder of a field accepts is a leaf, so that the fields of defaults and
of profiles are the leaves of the settings they are read from.
-/

namespace ClusterRest

open Toml (Leaf)
open Decoder

/-! ### Leaves -/

namespace Setting

def text? : Setting → Option String
  | .scalar _ (.text value) => some value
  | .scalar _ _ | .list _ _ | .table _ _ => none

/-- The value of a setting, if it is one that a field can have. -/
def leaf? : Setting → Option Leaf
  | .scalar _ (.text value) => some (.text value)
  | .scalar _ (.boolean value) => some (.boolean value)
  | .scalar _ (.signed value) => some (.integer value)
  | .scalar _ (.unsigned value) => some (.integer value)
  | .scalar _ (.float _) => none
  | .list _ elements => (elements.mapM text?).map .texts
  | .table _ _ => none

/-- What a field comes to: the leaf that is set, which has to be one, or else the standard one. -/
def Settles (setting : Option Setting) (standard field : Option Leaf) : Prop :=
  match setting with
  | some setting => ∃ leaf, setting.leaf? = some leaf ∧ field = some leaf
  | none => field = standard

/-- Only leaves count. -/
theorem Settles.congr {setting setting' : Option Setting} {standard field : Option Leaf}
    (settles : Settles setting standard field) (alike : setting.map leaf? = setting'.map leaf?) :
    Settles setting' standard field := by
  cases setting with
  | none =>
      cases setting' with
      | none => exact settles
      | some setting' => cases alike
  | some setting =>
      cases setting' with
      | none => cases alike
      | some setting' =>
          obtain ⟨leaf, value, field_eq⟩ := settles
          exact ⟨leaf, (Option.some.inj alike).symm.trans value, field_eq⟩

/-- A field of a record: a table gives it by its name, and a list by its place. -/
def field? (index : Nat) (name : String) : Setting → Option Setting
  | .table _ members => Settings.find? name members
  | .list _ elements => elements[index]?
  | .scalar _ _ => none

end Setting

section

variable {α : Type} {decode : Decoder α} {leaf : α → Leaf}

/-- A decoder accepts leaves of one kind. -/
def ReadsLeaf (decode : Decoder α) (leaf : α → Leaf) : Prop :=
  ∀ setting value, decode setting = .ok value → setting.leaf? = some (leaf value)

theorem ReadsLeaf.settles (reads : ReadsLeaf decode leaf) {found : Option Setting}
    {value : Option α} (decoded : found.map decode = value.map .ok) (standard : Option Leaf) :
    Setting.Settles found standard ((value.map leaf).or standard) := by
  cases found with
  | none =>
      cases value with
      | none => rfl
      | some value => cases decoded
  | some setting =>
      cases value with
      | none => cases decoded
      | some value => exact ⟨leaf value, reads setting value (Option.some.inj decoded), rfl⟩

theorem ReadsLeaf.member (reads : ReadsLeaf decode leaf) {name : String} {members : Settings}
    {value : Option α} (read : member decode name members = .ok value) (standard : Option Leaf) :
    Setting.Settles (members.find? name) standard ((value.map leaf).or standard) :=
  reads.settles (member_eq_ok.mp read) standard

theorem ReadsLeaf.element (reads : ReadsLeaf decode leaf) {index : Nat} {elements : List Setting}
    {value : Option α} (read : element decode index elements = .ok value)
    (standard : Option Leaf) :
    Setting.Settles elements[index]? standard ((value.map leaf).or standard) :=
  reads.settles (element_eq_ok.mp read) standard

end

theorem readsLeaf_textAs (expected : String) : ReadsLeaf (textAs expected) .text := by
  intro setting value decoded
  cases setting with
  | scalar origin scalar =>
      cases scalar with
      | text text =>
          cases decoded
          rfl
      | boolean | signed | unsigned | float => cases decoded
  | list | table => cases decoded

theorem readsLeaf_text : ReadsLeaf text .text := readsLeaf_textAs _

theorem readsLeaf_path : ReadsLeaf path .text := readsLeaf_textAs _

theorem readsLeaf_boolean : ReadsLeaf boolean .boolean := by
  intro setting value decoded
  cases setting with
  | scalar origin scalar =>
      cases scalar with
      | boolean truth =>
          cases decoded
          rfl
      | text | signed | unsigned | float => cases decoded
  | list | table => cases decoded

theorem readsLeaf_integer : ReadsLeaf integer .integer := by
  intro setting value decoded
  cases setting with
  | scalar origin scalar =>
      cases scalar with
      | signed number =>
          cases decoded
          rfl
      | unsigned number =>
          rw [integer] at decoded
          split at decoded
          · cases decoded
            rfl
          · cases decoded
      | text | boolean | float => cases decoded
  | list | table => cases decoded

theorem mapM_text?_of_textsFrom {elements : List Setting} {index : Nat} {values : List String}
    (decoded : textsFrom index elements = .ok values) :
    elements.mapM Setting.text? = some values := by
  induction elements generalizing index values with
  | nil =>
      cases decoded
      rfl
  | cons element elements ih =>
      obtain ⟨first, head, rest⟩ := bind_eq_ok.mp decoded
      obtain ⟨others, tail, whole⟩ := bind_eq_ok.mp rest
      cases whole
      have text_eq : element.text? = some first := by
        cases element with
        | scalar origin scalar =>
            cases scalar with
            | text text =>
                cases head
                rfl
            | boolean | signed | unsigned | float => cases head
        | list | table => cases head
      rw [List.mapM_cons, text_eq, ih tail]
      rfl

theorem readsLeaf_texts : ReadsLeaf texts .texts := by
  intro setting values decoded
  cases setting with
  | scalar | table => cases decoded
  | list origin elements =>
      rw [Setting.leaf?, mapM_text?_of_textsFrom decoded]
      rfl

/-! ### Fields -/

theorem lookup_entryOf {α : Type} (name other : String) (leaf : α → Leaf) (field : Option α) :
    (entryOf name leaf field).lookup other = if other = name then field.map leaf else none := by
  cases field with
  | none => simp [entryOf]
  | some value =>
      rw [entryOf, Option.map_some, Option.toList_some, lookup_cons]
      rfl

theorem lookup_entries (profile : Profile) :
    let stored := fun name => profile.entries.lookup name
    stored "endpoint" = (some profile.endpoint).map .text ∧
      stored "username" = profile.username.map .text ∧
      stored "password" = profile.password.map .text ∧
      stored "group" = profile.group.map .text ∧
      stored "auth_mode" = profile.authMode.map .integer ∧
      stored "insecure" = profile.insecure.map .boolean ∧
      stored "ca_cert" = profile.caCert.map .text ∧
      stored "min_tls_version" = profile.minTlsVersion.map .text ∧
      stored "max_tls_version" = profile.maxTlsVersion.map .text ∧
      stored "cipher_suites" = profile.cipherSuites.map .texts ∧
      stored "timeout" = profile.timeout.map .text ∧
      stored "volumes_path" = profile.volumesPath.map .text ∧
      stored "volumes_path_permissions" = profile.volumesPathPermissions.map .text ∧
      stored "ignore_unresolvable_hosts" = profile.ignoreUnresolvableHosts.map .boolean ∧
      stored "verbosity" = profile.verbosity.map .integer := by
  simp [Profile.entries, lookup_cons, List.lookup_append, lookup_entryOf]

namespace Profile

/-- The names of the fields, in their order. -/
def fieldNames : List String :=
  ["endpoint", "username", "password", "group", "auth_mode", "insecure", "ca_cert",
    "min_tls_version", "max_tls_version", "cipher_suites", "timeout", "volumes_path",
    "volumes_path_permissions", "ignore_unresolvable_hosts", "verbosity"]

variable {profile : Profile} {index : Nat} {name : String}

theorem settles_of_reads {members : Settings}
    (reads : Reads members (some profile.endpoint) profile)
    (named : fieldNames[index]? = some name) :
    Setting.Settles (members.find? name) none (profile.entries.lookup name) := by
  have given {α : Type} {decode : Decoder α} {leaf : α → Leaf} (reads : ReadsLeaf decode leaf)
      {name : String} {value : Option α} (read : member decode name members = .ok value)
      (stored : profile.entries.lookup name = value.map leaf) :
      Setting.Settles (members.find? name) none (profile.entries.lookup name) := by
    rw [stored, ← Option.or_none (o := value.map leaf)]
    exact reads.member read none
  obtain ⟨endpoint, username, password, group, authMode, insecure, caCert, minTls, maxTls, suites,
    timeout, volumes, permissions, unresolvable, verbosity⟩ := lookup_entries profile
  match index, named with
  | 0, rfl => exact given readsLeaf_text reads.endpoint endpoint
  | 1, rfl => exact given readsLeaf_text reads.username username
  | 2, rfl => exact given readsLeaf_text reads.password password
  | 3, rfl => exact given readsLeaf_text reads.group group
  | 4, rfl => exact given readsLeaf_integer reads.authMode authMode
  | 5, rfl => exact given readsLeaf_boolean reads.insecure insecure
  | 6, rfl => exact given readsLeaf_path reads.caCert caCert
  | 7, rfl => exact given readsLeaf_text reads.minTlsVersion minTls
  | 8, rfl => exact given readsLeaf_text reads.maxTlsVersion maxTls
  | 9, rfl => exact given readsLeaf_texts reads.cipherSuites suites
  | 10, rfl => exact given readsLeaf_text reads.timeout timeout
  | 11, rfl => exact given readsLeaf_text reads.volumesPath volumes
  | 12, rfl => exact given readsLeaf_text reads.volumesPathPermissions permissions
  | 13, rfl => exact given readsLeaf_boolean reads.ignoreUnresolvableHosts unresolvable
  | 14, rfl => exact given readsLeaf_integer reads.verbosity verbosity

/-- An element that a list has to give. -/
theorem element_required {α : Type} {decode : Decoder α} {index : Nat} {elements : List Setting}
    {value : α} {misfit : Misfit}
    (read : ∃ found, element decode index elements = .ok found ∧
      (match found with
        | some value => pure value
        | none => throw misfit : Except Misfit α) = .ok value) :
    element decode index elements = .ok (some value) := by
  obtain ⟨found, read, whole⟩ := read
  cases found with
  | none => cases whole
  | some found =>
      cases whole
      exact read

theorem settles_of_ofList {origin : Origin} {elements : List Setting}
    (decoded : ofList origin elements = .ok profile) (named : fieldNames[index]? = some name) :
    Setting.Settles elements[index]? none (profile.entries.lookup name) := by
  have given {α : Type} {decode : Decoder α} {leaf : α → Leaf} (reads : ReadsLeaf decode leaf)
      {index : Nat} {value : α} (read : element decode index elements = .ok (some value))
      {field : Option Leaf} (stored : field = some (leaf value)) :
      Setting.Settles elements[index]? none field := by
    rw [stored]
    exact reads.element read none
  have stored := lookup_entries profile
  simp only [ofList, bind_eq_ok] at decoded
  obtain ⟨_, endpoint, _, username, _, password, _, group, _, authMode, _, insecure, _, caCert, _,
    minTls, _, maxTls, _, suites, _, timeout, _, volumes, _, permissions, _, unresolvable, _,
    verbosity, whole⟩ := decoded
  cases whole
  obtain ⟨endpoint', username', password', group', authMode', insecure', caCert', minTls', maxTls',
    suites', timeout', volumes', permissions', unresolvable', verbosity'⟩ := stored
  match index, named with
  | 0, rfl => exact given readsLeaf_text (element_required endpoint) endpoint'
  | 1, rfl => exact given readsLeaf_text (element_required username) username'
  | 2, rfl => exact given readsLeaf_text (element_required password) password'
  | 3, rfl => exact given readsLeaf_text (element_required group) group'
  | 4, rfl => exact given readsLeaf_integer (element_required authMode) authMode'
  | 5, rfl => exact given readsLeaf_boolean (element_required insecure) insecure'
  | 6, rfl => exact given readsLeaf_path (element_required caCert) caCert'
  | 7, rfl => exact given readsLeaf_text (element_required minTls) minTls'
  | 8, rfl => exact given readsLeaf_text (element_required maxTls) maxTls'
  | 9, rfl => exact given readsLeaf_texts (element_required suites) suites'
  | 10, rfl => exact given readsLeaf_text (element_required timeout) timeout'
  | 11, rfl => exact given readsLeaf_text (element_required volumes) volumes'
  | 12, rfl => exact given readsLeaf_text (element_required permissions) permissions'
  | 13, rfl => exact given readsLeaf_boolean (element_required unresolvable) unresolvable'
  | 14, rfl => exact given readsLeaf_integer (element_required verbosity) verbosity'

/-- The fields of a profile are the leaves of the setting that it is read from. -/
theorem settles_of_decode {setting : Setting} (decoded : decode setting = .ok profile)
    (named : fieldNames[index]? = some name) :
    Setting.Settles (setting.field? index name) none (profile.entries.lookup name) := by
  cases setting with
  | scalar origin scalar => cases decoded
  | list origin elements => exact settles_of_ofList decoded named
  | table origin members => exact settles_of_reads (ofTable_eq_ok.mp decoded) named

end Profile

namespace Defaults

variable {defaults : Defaults} {index : Nat} {name : String} {leaf : Leaf}

theorem settles_fill {setting : Setting} {authMode : Option Int} {insecure : Option Bool}
    {timeout : Option String} {verbosity : Option Int}
    (authMode_eq : (setting.field? 0 "auth_mode").map integer = authMode.map .ok)
    (insecure_eq : (setting.field? 1 "insecure").map boolean = insecure.map .ok)
    (timeout_eq : (setting.field? 2 "timeout").map text = timeout.map .ok)
    (verbosity_eq : (setting.field? 3 "verbosity").map integer = verbosity.map .ok)
    (named : standard.entries[index]? = some (name, leaf)) :
    Setting.Settles (setting.field? index name) (some leaf)
      ((fill authMode insecure timeout verbosity).entries.lookup name) := by
  match index, named with
  | 0, rfl => cases authMode <;> exact readsLeaf_integer.settles authMode_eq _
  | 1, rfl => cases insecure <;> exact readsLeaf_boolean.settles insecure_eq _
  | 2, rfl => cases timeout <;> exact readsLeaf_text.settles timeout_eq _
  | 3, rfl => cases verbosity <;> exact readsLeaf_integer.settles verbosity_eq _

/-- The defaults are the leaves of the setting that they are read from, or the standard ones. -/
theorem settles_of_decode {setting : Setting} (decoded : decode setting = .ok defaults)
    (named : standard.entries[index]? = some (name, leaf)) :
    Setting.Settles (setting.field? index name) (some leaf) (defaults.entries.lookup name) := by
  cases setting with
  | scalar origin scalar => cases decoded
  | list origin elements =>
      simp only [decode, bind_eq_ok, element_eq_ok] at decoded
      obtain ⟨_, authMode, _, insecure, _, timeout, _, verbosity, whole⟩ := decoded
      cases whole
      exact settles_fill authMode insecure timeout verbosity named
  | table origin members =>
      simp only [decode, bind_eq_ok, member_eq_ok] at decoded
      obtain ⟨_, authMode, _, insecure, _, timeout, _, verbosity, whole⟩ := decoded
      cases whole
      exact settles_fill authMode insecure timeout verbosity named

end Defaults

end ClusterRest
