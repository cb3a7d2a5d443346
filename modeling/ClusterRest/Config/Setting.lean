import ClusterRest.Toml.Value

/-! Settings before they are given a type: trees that remember where each part was set. -/

namespace ClusterRest

inductive Origin where
  | builtIn
  | file
  | environment
  deriving DecidableEq, Repr, Inhabited

inductive Scalar where
  | text (value : String)
  | boolean (value : Bool)
  | signed (value : Int)
  | unsigned (value : Nat)
  | float (value : Decimal.Extended)
  deriving DecidableEq, Repr, Inhabited

inductive Setting where
  | scalar (origin : Origin) (value : Scalar)
  | list (origin : Origin) (elements : List Setting)
  | table (origin : Origin) (members : List (String × Setting))
  deriving Repr, Inhabited

/-- The members of a table, sorted by name. -/
abbrev Settings := List (String × Setting)

namespace Settings

def find? (name : String) (members : Settings) : Option Setting := members.lookup name

def put (name : String) (setting : Setting) : Settings → Settings
  | [] => [(name, setting)]
  | (other, old) :: rest =>
    if name = other then (name, setting) :: rest
    else if name < other then (name, setting) :: (other, old) :: rest
    else (other, old) :: put name setting rest

end Settings

namespace Setting

def origin : Setting → Origin
  | .scalar origin _ | .list origin _ | .table origin _ => origin

def members : Setting → Settings
  | .table _ members => members
  | .scalar _ _ | .list _ _ => []

mutual

/-- A setting over an earlier one: two tables combine, and else the later one stands. -/
def overlaid (earlier : Option Setting) : Setting → Setting
  | .table origin later => .table origin (mergeInto ((earlier.map members).getD []) later)
  | .scalar origin value => .scalar origin value
  | .list origin elements => .list origin elements

/-- The members of a later table put over those of an earlier one. -/
def mergeInto (earlier : Settings) : List (String × Setting) → Settings
  | [] => earlier
  | (name, setting) :: rest =>
    mergeInto (earlier.put name (overlaid (earlier.find? name) setting)) rest

end

/-- The setting at the end of a path of names. -/
def nest (origin : Origin) (setting : Setting) : List String → Setting
  | [] => setting
  | name :: path => .table origin [(name, nest origin setting path)]

/-- Dates and times are tables with this one member. -/
def momentName : String := "$__toml_private_datetime"

mutual

def ofToml : Toml.Value → Setting
  | .text value => .scalar .file (.text value)
  | .integer value => .scalar .file (.signed value)
  | .float value => .scalar .file (.float value)
  | .boolean value => .scalar .file (.boolean value)
  | .moment text => .table .file [(momentName, .scalar .file (.text text))]
  | .list elements => .list .file (elementsOfToml elements)
  | .table members => .table .file (membersOfToml members)

def elementsOfToml : List Toml.Value → List Setting
  | [] => []
  | element :: rest => ofToml element :: elementsOfToml rest

def membersOfToml : List (String × Toml.Value) → Settings
  | [] => []
  | (name, value) :: rest => (membersOfToml rest).put name (ofToml value)

end

end Setting

end ClusterRest
