import ClusterRest.Decimal.Extended

/-! Values of TOML documents. -/

namespace ClusterRest.Toml

open Decimal

inductive Value where
  | text (value : String)
  | integer (value : Int)
  | float (value : Extended)
  | boolean (value : Bool)
  | moment (text : String)
  | list (elements : List Value)
  | table (members : List (String × Value))
  deriving Repr, Inhabited

abbrev Members := List (String × Value)

def least : Int := -9223372036854775808
def greatest : Int := 9223372036854775807

/-- Whether an integer fits 64 bits with a sign. -/
def fits (number : Int) : Bool := least ≤ number && number ≤ greatest

end ClusterRest.Toml
