/-! Remarks that a run leaves behind without failing. -/

namespace ClusterRest

inductive Warning where
  | unknownAuthMode (raw : Int)
  | unknownVerbosity (raw : Int)
  | missingCsrfCookie (name : String)
  | unexpectedLoginStatus (status : Nat)
  deriving DecidableEq, Repr

def Warning.text : Warning → String
  | .unknownAuthMode raw =>
    "unknown auth mode, falling back to basic auth auth_mode=" ++ toString raw
  | .unknownVerbosity raw => "unknown verbosity level, using low verbosity=" ++ toString raw
  | .missingCsrfCookie name =>
    "login response carried no " ++ name ++ " cookie, continuing without CSRF token"
  | .unexpectedLoginStatus status => "unexpected login response status=" ++ toString status

end ClusterRest
