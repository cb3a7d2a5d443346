import ClusterRest.Base64
import ClusterRest.Text.Quoted

/-! Sections between BEGIN and END lines, and the certificates among them. -/

namespace ClusterRest.Pem

inductive Fault where
  | openSection (label : Bytes)
  | badStart (line : Bytes)
  | content (fault : Base64.Fault)
  deriving DecidableEq, Repr

def Fault.message : Fault → String
  | .openSection label =>
    "section end " ++ Text.quote (Bytes.toStringLossy label) ++ " missing"
  | .badStart line => "illegal section start: " ++ Text.quote (Bytes.toStringLossy line)
  | .content fault => fault.message

def isLineEnd (byte : UInt8) : Bool := byte == 0x0A || byte == 0x0D

/-- The lines of a text, each with the character that ends it. -/
def lines : Bytes → (line : Bytes) → List Bytes
  | [], line => if line.isEmpty then [] else [line.reverse]
  | byte :: rest, line =>
    if isLineEnd byte then (byte :: line).reverse :: lines rest [] else lines rest (byte :: line)

def dashes : Bytes := Bytes.ofString "-----"
def startMark : Bytes := Bytes.ofString "-----BEGIN "
def endMark : Bytes := Bytes.ofString "-----END "

def afterMark? (mark line : Bytes) : Option Bytes :=
  if mark.isPrefixOf line then some (line.drop mark.length) else none

/-- Bytes that may stand between and after the dashes of a start line. -/
def isTrailing (byte : UInt8) : Bool := byte == 0x2D || isLineEnd byte || byte == 0x20

/-- The label of a start line: all before its last five dashes. -/
def label? (afterStart : Bytes) : Option Bytes :=
  let trailer := afterStart.reverse.takeWhile isTrailing
  if trailer.count 0x2D = 5 then
    let body := afterStart.take (afterStart.length - trailer.length)
    some (body ++ trailer.reverse.takeWhile (· != 0x2D))
  else none

def endsSection (label line : Bytes) : Bool := (endMark ++ label ++ dashes).isPrefixOf line

def certificateLabel : Bytes := Bytes.ofString "CERTIFICATE"

/-- Labels of sections whose content has to be Base64. -/
def knownLabels : List Bytes :=
  ["CERTIFICATE", "PUBLIC KEY", "RSA PRIVATE KEY", "PRIVATE KEY", "EC PRIVATE KEY", "X509 CRL",
    "CERTIFICATE REQUEST", "ECHCONFIG"].map Bytes.ofString

/-- The section that is open at a line, with the text it holds so far. -/
structure Section where
  label : Bytes
  content : Bytes
  deriving DecidableEq, Repr

/-- What a closed section holds: a certificate or nothing of interest. -/
def Section.certificate? (closed : Section) : Except Fault (Option Bytes) :=
  if knownLabels.contains closed.label then
    match Base64.decode closed.content with
    | .ok content => .ok (if closed.label = certificateLabel then some content else none)
    | .error fault => .error (.content fault)
  else .ok none

def readLines : List Bytes → Option Section → Except Fault (List Bytes)
  | [], none => .ok []
  | [], some present => .error (.openSection present.label)
  | line :: rest, present =>
    match afterMark? startMark line with
    | some afterStart =>
      match label? afterStart with
      | some label => readLines rest (some ⟨label, (present.map (·.content)).getD []⟩)
      | none => .error (.badStart line)
    | none =>
      match present with
      | none => readLines rest none
      | some present =>
        if endsSection present.label line then do
          let certificate ← present.certificate?
          return certificate.toList ++ (← readLines rest none)
        else readLines rest (some { present with content := present.content ++ line })

/-- The certificates in a text. -/
def certificates (text : Bytes) : Except Fault (List Bytes) := readLines (lines text []) none

end ClusterRest.Pem
