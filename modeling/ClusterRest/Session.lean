import ClusterRest.Text.Blank
import ClusterRest.Text.Pieces
import ClusterRest.Warning

/-! Sessions, the cookies they come from, and the store that holds the present one. -/

namespace ClusterRest

open Text

/-- What is sent with every request of a session. -/
structure Session where
  cookie : String
  csrfToken : String
  referer : String
  generation : Nat
  deriving DecidableEq, Repr, Inhabited

/-- What a login gives. -/
structure SessionTokens where
  sessionId : String
  csrfToken : Option String
  deriving DecidableEq, Repr

def sessionCookie : String := "isisessid"
def csrfCookie : String := "isicsrf"

namespace Session

/-- No session yet. -/
def empty : Session := ⟨"", "", "", 0⟩

def isAuthenticated (session : Session) : Bool := !session.cookie.isEmpty

def ofTokens (tokens : SessionTokens) (referer : String) : Session :=
  ⟨sessionCookie ++ "=" ++ tokens.sessionId, tokens.csrfToken.getD "", referer, 0⟩

end Session

/-- What the cookies of a login reply have given so far. -/
structure CookieScan where
  sessionId : Option String
  csrfToken : Option String
  deriving DecidableEq, Repr

namespace CookieScan

def start : CookieScan := ⟨none, none⟩

/-- Takes the value of a cookie that is looked for and not found yet. -/
def take (scan : CookieScan) (name value : String) : CookieScan :=
  if name = sessionCookie ∧ scan.sessionId.isNone then { scan with sessionId := some value }
  else if name = csrfCookie ∧ scan.csrfToken.isNone then { scan with csrfToken := some value }
  else scan

/-- Reads a segment `name=value`, both trimmed; one without an equals sign or with a blank value is
passed over. -/
def readSegment (scan : CookieScan) (segment : List Char) : CookieScan :=
  match cutChars '=' segment with
  | none => scan
  | some (name, value) =>
    let value := trimChars value
    if value.isEmpty then scan
    else scan.take (String.ofList (trimChars name)) (String.ofList value)

def readValue (scan : CookieScan) (value : String) : CookieScan :=
  (piecesOf ';' value.toList).foldl readSegment scan

end CookieScan

namespace SessionTokens

/-- The tokens in the cookies of a login reply; none without a session cookie. -/
def ofCookies? (values : List String) : Option SessionTokens :=
  let scan := values.foldl CookieScan.readValue .start
  scan.sessionId.map fun sessionId => ⟨sessionId, scan.csrfToken⟩

def warnings (tokens : SessionTokens) : List Warning :=
  if tokens.csrfToken.isNone then [.missingCsrfCookie csrfCookie] else []

end SessionTokens

/-- The session that requests use now. -/
structure SessionStore where
  current : Session
  deriving DecidableEq, Repr, Inhabited

namespace SessionStore

def empty : SessionStore := ⟨.empty⟩

/-- Stores a session under the next generation, whatever generation it came with. -/
def replace (store : SessionStore) (session : Session) : SessionStore :=
  ⟨{ session with generation := store.current.generation + 1 }⟩

@[simp] theorem generation_replace (store : SessionStore) (session : Session) :
    (store.replace session).current.generation = store.current.generation + 1 := rfl

end SessionStore

end ClusterRest
