import ClusterRest.Form

/-! Ordered query parameters. A name may occur more than once. -/

namespace ClusterRest

structure Params where
  entries : List (String × Bytes)
  deriving DecidableEq, Repr, Inhabited

namespace Params

def empty : Params := ⟨[]⟩

def add (params : Params) (name : String) (value : Bytes) : Params :=
  ⟨params.entries ++ [(name, value)]⟩

def size (params : Params) : Nat := params.entries.length

def isEmpty (params : Params) : Bool := params.entries.isEmpty

/-- The values of a name, in order. -/
def getAll (params : Params) (name : String) : List Bytes :=
  (params.entries.filter (·.1 = name)).map (·.2)

def encodedChars (params : Params) : List Char :=
  Form.encode (params.entries.map fun (name, value) => (Bytes.ofString name, value))

def encode (params : Params) : String := .ofList params.encodedChars

end Params

end ClusterRest
