import ClusterRest.Config.Basic
import ClusterRest.Config.Setting
import ClusterRest.Text.Quoted

/-! Configurations from settings, and what keeps settings from being one. -/

namespace ClusterRest

/-- What is wrong with a setting. -/
inductive Mismatch where
  | wrongType (found expected : String)
  | beyondRange (found expected : String)
  | wrongLength (length : Nat) (expected : String)
  | missingField (name : String)
  deriving DecidableEq, Repr

def Mismatch.message : Mismatch → String
  | .wrongType found expected => "invalid type: found " ++ found ++ ", expected " ++ expected
  | .beyondRange found expected => "invalid value " ++ found ++ ", expected " ++ expected
  | .wrongLength length expected =>
    "invalid length " ++ toString length ++ ", expected " ++ expected
  | .missingField name => "missing field \x60" ++ name ++ "\x60"

/-- A setting that does not fit, and where it was set. -/
structure Misfit where
  origin : Origin
  path : List String
  mismatch : Mismatch
  deriving DecidableEq, Repr

namespace Misfit

/-- Puts a name before the path. -/
def under (name : String) (misfit : Misfit) : Misfit := { misfit with path := name :: misfit.path }

end Misfit

def Scalar.described : Scalar → String
  | .text value => "string " ++ Text.quote value
  | .boolean value => "bool " ++ toString value
  | .signed value => "signed int \x60" ++ toString value ++ "\x60"
  | .unsigned value => "unsigned int \x60" ++ toString value ++ "\x60"
  | .float value => "float \x60" ++ value.toText ++ "\x60"

def Setting.described : Setting → String
  | .scalar _ value => value.described
  | .list _ _ => "sequence"
  | .table _ _ => "map"

abbrev Decoder (α : Type) := Setting → Except Misfit α

namespace Decoder

def mismatch (setting : Setting) (mismatch : Mismatch) : Except Misfit α :=
  .error ⟨setting.origin, [], mismatch⟩

def refuse (expected : String) (setting : Setting) : Except Misfit α :=
  mismatch setting (.wrongType setting.described expected)

def within (name : String) (result : Except Misfit α) : Except Misfit α :=
  result.mapError (·.under name)

def textAs (expected : String) : Decoder String
  | .scalar _ (.text value) => .ok value
  | setting => refuse expected setting

def text : Decoder String := textAs "a string"
def path : Decoder String := textAs "path string"

def boolean : Decoder Bool
  | .scalar _ (.boolean value) => .ok value
  | setting => refuse "a boolean" setting

def integerName : String := "i64"
def greatestInteger : Nat := Nat.pow 2 63 - 1

def integer : Decoder Int
  | .scalar _ (.signed value) => .ok value
  | .scalar origin (.unsigned value) =>
    if value ≤ greatestInteger then .ok value
    else mismatch (.scalar origin (.unsigned value))
      (.beyondRange (Scalar.unsigned value).described integerName)
  | setting => refuse integerName setting

/-- The elements of a list, each with its number in the path. -/
def textsFrom : (index : Nat) → List Setting → Except Misfit (List String)
  | _, [] => .ok []
  | index, element :: rest => do
    let first ← within (toString index) (text element)
    return first :: (← textsFrom (index + 1) rest)

def texts : Decoder (List String)
  | .list _ elements => textsFrom 0 elements
  | setting => refuse "a sequence" setting

/-- A member of a table, if it is there. -/
def member (decode : Decoder α) (name : String) (members : Settings) : Except Misfit (Option α) :=
  match members.find? name with
  | some setting => within name ((decode setting).map some)
  | none => .ok none

/-- An element of a list, if it is there. -/
def element (decode : Decoder α) (index : Nat) (elements : List Setting) :
    Except Misfit (Option α) :=
  match elements[index]? with
  | some setting => within (toString index) ((decode setting).map some)
  | none => .ok none

end Decoder

open Decoder

namespace Defaults

def typeName : String := "struct Defaults"

def fill (authMode : Option Int) (insecure : Option Bool) (timeout : Option String)
    (verbosity : Option Int) : Defaults where
  authMode := authMode.getD standard.authMode
  insecure := insecure.getD standard.insecure
  timeout := timeout.getD standard.timeout
  verbosity := verbosity.getD standard.verbosity

/-- What is left out has its standard value. A list gives the fields in order. -/
def decode : Decoder Defaults
  | .table _ members => do
    let authMode ← member integer "auth_mode" members
    let insecure ← member boolean "insecure" members
    let timeout ← member text "timeout" members
    let verbosity ← member integer "verbosity" members
    return fill authMode insecure timeout verbosity
  | .list _ elements => do
    let authMode ← element integer 0 elements
    let insecure ← element boolean 1 elements
    let timeout ← element text 2 elements
    let verbosity ← element integer 3 elements
    return fill authMode insecure timeout verbosity
  | setting => refuse typeName setting

end Defaults

namespace Profile

def typeName : String := "struct Profile"
def fieldCount : Nat := 15
def endpointName : String := "endpoint"

/-- The fields of a table are looked at in the order of their names. -/
def ofTable (origin : Origin) (members : Settings) : Except Misfit Profile := do
  let authMode ← member integer "auth_mode" members
  let caCert ← member path "ca_cert" members
  let cipherSuites ← member texts "cipher_suites" members
  let endpoint ← member text endpointName members
  let group ← member text "group" members
  let ignoreUnresolvableHosts ← member boolean "ignore_unresolvable_hosts" members
  let insecure ← member boolean "insecure" members
  let maxTlsVersion ← member text "max_tls_version" members
  let minTlsVersion ← member text "min_tls_version" members
  let password ← member text "password" members
  let timeout ← member text "timeout" members
  let username ← member text "username" members
  let verbosity ← member integer "verbosity" members
  let volumesPath ← member text "volumes_path" members
  let volumesPathPermissions ← member text "volumes_path_permissions" members
  match endpoint with
  | none => throw ⟨origin, [], .missingField endpointName⟩
  | some endpoint =>
    return ⟨endpoint, username, password, group, authMode, insecure, caCert, minTlsVersion,
      maxTlsVersion, cipherSuites, timeout, volumesPath, volumesPathPermissions,
      ignoreUnresolvableHosts, verbosity⟩

/-- A list gives all fields in order. -/
def ofList (origin : Origin) (elements : List Setting) : Except Misfit Profile := do
  let field {α : Type} (decode : Decoder α) (index : Nat) : Except Misfit α := do
    match ← element decode index elements with
    | some value => return value
    | none => throw ⟨origin, [],
      .wrongLength index (typeName ++ " with " ++ toString fieldCount ++ " elements")⟩
  let endpoint ← field text 0
  let username ← field text 1
  let password ← field text 2
  let group ← field text 3
  let authMode ← field integer 4
  let insecure ← field boolean 5
  let caCert ← field path 6
  let minTlsVersion ← field text 7
  let maxTlsVersion ← field text 8
  let cipherSuites ← field texts 9
  let timeout ← field text 10
  let volumesPath ← field text 11
  let volumesPathPermissions ← field text 12
  let ignoreUnresolvableHosts ← field boolean 13
  let verbosity ← field integer 14
  return ⟨endpoint, username, password, group, authMode, insecure, caCert, minTlsVersion,
    maxTlsVersion, cipherSuites, timeout, volumesPath, volumesPathPermissions,
    ignoreUnresolvableHosts, verbosity⟩

def decode : Decoder Profile
  | .table origin members => ofTable origin members
  | .list origin elements => ofList origin elements
  | setting => refuse typeName setting

def decodeAll : Settings → Except Misfit (List (String × Profile))
  | [] => .ok []
  | (name, setting) :: rest => do
    let profile ← within name (decode setting)
    return (name, profile) :: (← decodeAll rest)

def decodeTable : Decoder (List (String × Profile))
  | .table _ members => decodeAll members
  | setting => refuse "a map" setting

end Profile

namespace Config

def defaultProfileName : String := "default_profile"
def defaultsName : String := "defaults"
def profilesName : String := "profiles"

def ofSettings (settings : Settings) : Except Misfit Config := do
  let defaultProfile ← member text defaultProfileName settings
  let defaults ← member Defaults.decode defaultsName settings
  let profiles ← member Profile.decodeTable profilesName settings
  return ⟨defaultProfile, defaults.getD .standard, profiles.getD []⟩

end Config

end ClusterRest
