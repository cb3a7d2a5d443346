import ClusterRest.ClientError
import ClusterRest.Params
import ClusterRest.Url.Parser

/-! URLs of requests: an endpoint, a path, an identifier and parameters. -/

namespace ClusterRest.Endpoint

def endsInSlash (text : List Char) : Bool := text.getLast? == some '/'

def withSlash (text : List Char) : List Char := if endsInSlash text then text else text ++ ['/']

def dropSlash : List Char → List Char
  | '/' :: rest => rest
  | text => text

/-- Endpoint, path and identifier as one text, with one slash between them. -/
def joinPath (endpoint path id : List Char) : List Char :=
  let base := if path.isEmpty && id.isEmpty then endpoint else withSlash endpoint
  let located := if path.isEmpty then base else withSlash (base ++ dropSlash path)
  located ++ id

def joinChars (endpoint path id : List Char) (params : Params) : List Char :=
  joinPath endpoint path id ++ if params.isEmpty then [] else '?' :: params.encodedChars

def join (endpoint path id : String) (params : Params) : String :=
  .ofList (joinChars endpoint.toList path.toList id.toList params)

/-- The URL of a request. -/
def url (endpoint path id : String) (params : Params) : Except ClientError Url :=
  let text := join endpoint path id params
  match Url.parse text with
  | .ok url => .ok url
  | .error cause => .error (.invalidUrl text cause)

end ClusterRest.Endpoint
