import ClusterRest.ClientError
import ClusterRest.Http.Headers
import ClusterRest.Json.Printer
import ClusterRest.Params

/-! Requests to a cluster and its replies, before any credentials are attached. -/

namespace ClusterRest

/-- What a request carries: nothing, bytes as they are, or a JSON text. -/
inductive Body where
  | empty
  | raw (content : Bytes)
  | json (content : Bytes)
  deriving DecidableEq, Repr, Inhabited

namespace Body

def octetStream : String := "binary/octet-stream"
def applicationJson : String := "application/json"

def ofJson (value : Json.Value) : Body := .json (Bytes.ofString value.compact)

/-- The content type that holds unless the caller sets one. -/
def contentType? : Body → Option String
  | .empty => none
  | .raw _ => some octetStream
  | .json _ => some applicationJson

def content? : Body → Option Bytes
  | .empty => none
  | .raw content => some content
  | .json content => some content

end Body

/-- The cancellation token of a call: none, one that may still fire, or one that has fired. -/
inductive Cancellation where
  | none
  | live
  | fired
  deriving DecidableEq, Repr, Inhabited

structure Request where
  method : String
  path : String
  id : String
  params : Params
  headers : Http.Headers
  body : Body
  cancellation : Cancellation
  deriving DecidableEq, Repr, Inhabited

namespace Request

def ofMethod (method path : String) : Request :=
  ⟨method, path, "", ⟨[]⟩, .empty, .empty, .none⟩

def get (path : String) : Request := ofMethod "GET" path
def post (path : String) : Request := ofMethod "POST" path
def put (path : String) : Request := ofMethod "PUT" path
def delete (path : String) : Request := ofMethod "DELETE" path

def withId (request : Request) (id : String) : Request := { request with id }
def withParams (request : Request) (params : Params) : Request := { request with params }
def withBody (request : Request) (body : Body) : Request := { request with body }
def withJson (request : Request) (value : Json.Value) : Request := request.withBody (.ofJson value)

/-- Appends a value to those of a header. -/
def withHeader (request : Request) (name value : String) : Except ClientError Request :=
  match Http.headerName? name with
  | none => .error (.invalidHeader (name ++ ": invalid HTTP header name"))
  | some known =>
    let content := Bytes.ofString value
    if Http.isHeaderValue content then
      .ok { request with headers := request.headers.append known content }
    else .error (.invalidHeader (known ++ ": " ++ Http.badValue))

/-- Headers given here replace those of the same name. -/
def withHeaders (request : Request) (headers : Http.Headers) : Request :=
  { request with headers := request.headers.extend headers }

def withCancellation (request : Request) (cancellation : Cancellation) : Request :=
  { request with cancellation }

/-- Whether a call has to stop, given whether its token fired since it began. -/
def isCancelled (request : Request) (fired : Bool) : Bool :=
  match request.cancellation with
  | .none => false
  | .live => fired
  | .fired => true

end Request

/-- A reply that has been read to its end. -/
structure Reply where
  status : Nat
  headers : Http.Headers
  body : Bytes
  deriving DecidableEq, Repr, Inhabited

end ClusterRest
