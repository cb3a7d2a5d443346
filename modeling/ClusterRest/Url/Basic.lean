import ClusterRest.Url.Host

/-! URLs and their written form. -/

namespace ClusterRest

namespace Url

inductive Path where
  | opaqueText (text : String)
  | segments (names : List String)
  deriving DecidableEq, Repr

end Url

/-- A URL. Without an authority, `host` is `none`. -/
structure Url where
  scheme : String
  username : String
  password : Option String
  host : Option Url.Host
  port : Option Nat
  path : Url.Path
  query : Option String
  fragment : Option String
  deriving DecidableEq, Repr

namespace Url

def Path.toText : Path → String
  | .opaqueText text => text
  | .segments names => String.join (names.map ("/" ++ ·))

def authorityText (url : Url) : String :=
  match url.host with
  | none => ""
  | some host =>
    let userinfo := if url.username.isEmpty && url.password.isNone then ""
      else url.username ++ (url.password.map (":" ++ ·)).getD "" ++ "@"
    "//" ++ userinfo ++ host.toText ++ (url.port.map fun port => ":" ++ toString port).getD ""

/-- A path that begins with two slashes would read as an authority where there is none. -/
def pathGuard (url : Url) : String :=
  match url.host, url.path with
  | none, .segments ("" :: _ :: _) => "/."
  | _, _ => ""

def toText (url : Url) : String :=
  url.scheme ++ ":" ++ url.authorityText ++ url.pathGuard ++ url.path.toText ++
    (url.query.map ("?" ++ ·)).getD "" ++ (url.fragment.map ("#" ++ ·)).getD ""

end Url

end ClusterRest
