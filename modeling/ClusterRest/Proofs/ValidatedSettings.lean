import ClusterRest.Proofs.Calls
import ClusterRest.Proofs.ResolvedSettings
import ClusterRest.Transport.Connect

/-!
Settings that a profile gives, as the opening of a client checks them. Main statement: the endpoint
passes always, the username unless an empty variable gives it, and the password unless the keyring
or the profile gives an empty one.
-/

namespace ClusterRest

namespace Profile

/-- The credential that a profile's settings have an empty text for. An empty username of the
profile and an empty variable for the password count as not set, and the next source is asked. -/
def emptyCredential? (profile : Profile) (name : String) (host : Host) : Option RequiredField :=
  let unnamed := (profile.username.filter (· ≠ "")).isNone
  let unset := ((host.environment.find? "ONEFS_PASSWORD").filter (· ≠ "")).isNone
  if unnamed ∧ host.environment.find? "ONEFS_USERNAME" = some "" then some .username
  else if unset ∧ (host.keyring (name ++ "/password") <|> profile.password) = some "" then
    some .password
  else none

/-- Of two sources the first is asked for a text that is not empty, the second for any text. -/
theorem empty_of_sources {first second : Option String} {text : String}
    (found : (first.filter (· ≠ "") <|> second) = some text) :
    text = "" ↔ (first.filter (· ≠ "")).isNone ∧ second = some "" := by
  cases kept : first.filter (· ≠ "") with
  | none =>
      rw [kept] at found
      have given : second = some text := found
      rw [given, Option.some.injEq, Option.isNone_none]
      exact (and_iff_right rfl).symm
  | some value =>
      rw [kept] at found
      have given : value = text := Option.some.inj found
      have filled : value ≠ "" := by
        have passes := (Option.filter_eq_some_iff.mp kept).2
        simpa using passes
      rw [← given, Option.isNone_some]
      exact iff_of_false filled fun both => absurd both.1 (by decide)

variable {profile : Profile} {name : String} {defaults : Defaults} {host : Host}
  {client : ClientConfig}

theorem Gives.emptyCredential?_eq (gives : profile.Gives name defaults host client) :
    profile.emptyCredential? name host =
      if client.username = "" then some .username
      else if client.password = "" then some .password
      else none := by
  have username := empty_of_sources gives.username
  have password := empty_of_sources gives.password
  simp only [Profile.emptyCredential?, username, password]

theorem Gives.validate_eq (gives : profile.Gives name defaults host client) :
    Transport.validate client =
      match profile.emptyCredential? name host with
      | some field => .error (.missingConfig field)
      | none => .ok () := by
  have notBlank := (checkEndpoint_eq_ok.mp gives.address).1
  rw [gives.emptyCredential?_eq, Transport.validate, notBlank]
  simp only [Bool.false_eq_true, if_false, String.isEmpty_iff]
  by_cases unnamed : client.username = ""
  · rw [if_pos unnamed, if_pos unnamed]
  · rw [if_neg unnamed, if_neg unnamed]
    by_cases unkeyed : client.password = ""
    · rw [if_pos unkeyed, if_pos unkeyed]
    · rw [if_neg unkeyed, if_neg unkeyed]

end Profile

/-- Settings that are not valid end the opening of a client before anything is sent. -/
theorem Transport.connect_of_invalid {World : Type} {client : ClientConfig} {error : ClientError}
    (invalid : validate client = .error error) (files : Files) (network : Network World)
    (run : Run (Traffic World)) :
    (connect files network client).perform run = (.error error, run) := by
  simp only [connect, Call.perform_bind, Call.perform_liftM, invalid]

/-- Settings that a profile gives are valid, unless a source of a credential gave an empty text. -/
theorem validate_of_resolve {profile : Profile} {name : String} {defaults : Defaults} {host : Host}
    {warnings : List Warning} {client : ClientConfig}
    (resolved : outcomeOf (profile.resolve name defaults host) warnings = .ok client) :
    (profile.emptyCredential? name host = none → Transport.validate client = .ok ()) ∧
      ∀ field, profile.emptyCredential? name host = some field →
        Transport.validate client = .error (.missingConfig field) ∧
        ∀ {World : Type} (files : Files) (network : Transport.Network World)
          (run : Run (Transport.Traffic World)),
          (Transport.connect files network client).perform run =
            (.error (.missingConfig field), run) := by
  rw [Profile.outcomeOf_resolve] at resolved
  have gives := Profile.settings_eq_ok.mp resolved
  have checked := gives.validate_eq
  constructor
  · intro filled
    rw [checked, filled]
  · intro field empty
    rw [empty] at checked
    exact ⟨checked, Transport.connect_of_invalid checked⟩

/-- A profile with a password that an empty entry of the keyring hides. -/
def hiddenPassword : Profile := { Profile.ofEndpoint "https://[::1]:8080" with
  username := some "admin"
  password := some "plain" }

def emptyKeyring : Host where
  environment := [("ONEFS_PASSWORD", "")]
  keyring account := if account = "lab/password" then some "" else none

theorem validate_of_resolve_emptyKeyring : ∃ client,
    outcomeOf (hiddenPassword.resolve "lab" .standard emptyKeyring) [] = .ok client ∧
      Transport.validate client = .error (.missingConfig .password) := by
  have resolved : outcomeOf (hiddenPassword.resolve "lab" .standard emptyKeyring) [] =
      .ok (.new "https://[::1]:8080" "admin" "") := by
    rfl
  have empty : hiddenPassword.emptyCredential? "lab" emptyKeyring = some .password := by
    rfl
  exact ⟨_, resolved, ((validate_of_resolve resolved).2 _ empty).1⟩

/-- A profile without a username, which an empty variable gives. -/
def namelessProfile : Profile := { Profile.ofEndpoint "https://[::1]:8080" with
  password := some "plain" }

def namelessHost : Host where
  environment := [("ONEFS_USERNAME", "")]
  keyring _ := none

theorem resolve_gives_invalid : ∃ client,
    outcomeOf (namelessProfile.resolve "lab" .standard namelessHost) [] = .ok client ∧
      Transport.validate client = .error (.missingConfig .username) :=
  ⟨.new "https://[::1]:8080" "" "plain", rfl, rfl⟩

end ClusterRest
