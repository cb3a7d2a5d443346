import ClusterRest.ClientError
import ClusterRest.Config.Error
import ClusterRest.Json.Fault

/-! Why a command fails: the message, the advice, and the exit code that scripts rely on. -/

namespace ClusterRest.CommandLine

inductive Failure where
  | unreachable (endpoint : String) (cause : ClientError)
  | tls (reason : String)
  | authentication (message : String)
  | noCredentials (profile : String)
  | notFound (message : String)
  | refused (status : Nat) (message : String)
  | timeout (limit : Duration)
  | client (error : ClientError)
  | invalid (field reason : String)
  | profileNotFound (name configPath : String)
  | noConfig (configPath : String)
  | config (error : ConfigError)
  | file (fault : FileFault)
  | json (fault : Json.LocatedFault)
  deriving DecidableEq, Repr

namespace Failure

def message : Failure → String
  | .unreachable endpoint _ => "Could not connect to cluster at " ++ endpoint
  | .tls reason => "TLS setup failed: " ++ reason
  | .authentication message => message
  | .noCredentials profile => "No credentials configured for profile '" ++ profile ++ "'"
  | .notFound message => "Not found: " ++ message
  | .refused status message => "API error (HTTP " ++ toString status ++ "): " ++ message
  | .timeout limit => "Request timed out after " ++ limit.toText
  | .client error => error.message
  | .invalid field reason => "Invalid value for " ++ field ++ ": " ++ reason
  | .profileNotFound name _ => "Profile '" ++ name ++ "' not found in configuration"
  | .noConfig _ => "No cluster endpoint configured"
  | .config error => error.message
  | .file fault => fault.message
  | .json fault => "Invalid JSON payload: " ++ fault.message

/-- The name that documentation lists a failure under. -/
def code? : Failure → Option String
  | .unreachable _ _ => some "onefs::connection_failed"
  | .tls _ => some "onefs::tls_error"
  | .authentication _ => some "onefs::auth_failed"
  | .noCredentials _ => some "onefs::no_credentials"
  | .notFound _ => some "onefs::not_found"
  | .refused _ _ => some "onefs::api_error"
  | .timeout _ => some "onefs::timeout"
  | .client _ => some "onefs::client"
  | .invalid _ _ => some "onefs::validation"
  | .profileNotFound _ _ => some "onefs::profile_not_found"
  | .noConfig _ => some "onefs::no_config"
  | .config _ => some "onefs::config"
  | .file _ => none
  | .json _ => some "onefs::json"

/-- What the user may try. -/
def advice? : Failure → Option String
  | .unreachable endpoint _ =>
    some ("Check that the cluster is reachable and the endpoint includes the port.\nEndpoint: "
      ++ endpoint)
  | .tls _ =>
    some ("Clusters usually present a self-signed certificate.\n"
      ++ "Use --insecure (-k) to accept it, or set ca_cert in your profile.")
  | .authentication _ => some "Verify the username and password, or try --auth-mode basic."
  | .noCredentials _ =>
    some ("Set username and password in the profile, store the password in the\n"
      ++ "system keyring under service 'onefs', or set ONEFS_PASSWORD.")
  | .timeout _ => some "Increase the timeout with --timeout or check cluster responsiveness."
  | .profileNotFound name configPath =>
    some ("Add a [profiles." ++ name ++ "] table to " ++ configPath)
  | .noConfig configPath =>
    some ("Pass --endpoint, set ONEFS_ENDPOINT, or create a profile.\nExpected config at: "
      ++ configPath)
  | .json _ => some "Check the request body and try again."
  | .notFound _ | .refused _ _ | .client _ | .invalid _ _ | .config _ | .file _ => none

def generalCode : Nat := 1
def misuseCode : Nat := 2
def authenticationCode : Nat := 3
def notFoundCode : Nat := 4
def connectionCode : Nat := 7
def timeoutCode : Nat := 8

def exitCode : Failure → Nat
  | .unreachable _ _ | .tls _ => connectionCode
  | .authentication _ | .noCredentials _ => authenticationCode
  | .notFound _ => notFoundCode
  | .timeout _ => timeoutCode
  | .invalid _ _ => misuseCode
  | .refused _ _ | .client _ | .profileNotFound _ _ | .noConfig _ | .config _ | .file _
  | .json _ => generalCode

/-- Stands for the endpoint where none is known. -/
def unknownEndpoint : String := "(unknown)"

def ofClientError (error : ClientError) : Failure :=
  if error.isLoginFailure || error.isUnauthorized then .authentication error.message
  else if error.isNotFound then .notFound error.message
  else match error with
    | .timeout limit => .timeout limit
    | .tls reason => .tls reason
    | .missingConfig field => .invalid field.name "must not be empty"
    | .invalidHeader reason => .invalid "header" reason
    | .reply reply => .refused reply.status reply.message
    | other => if other.isConnectFailure then .unreachable unknownEndpoint other else .client other

/-- Names the endpoint that could not be reached. -/
def ofConnectError (error : ClientError) (endpoint : String) : Failure :=
  if error.isConnectFailure then .unreachable endpoint error else ofClientError error

def ofConfigError (configPath : String) : ConfigError → Failure
  | .invalid field reason => .invalid field reason
  | .noCredentials profile => .noCredentials profile
  | .profileNotFound name => .profileNotFound name configPath
  | other => .config other

end Failure

end ClusterRest.CommandLine
