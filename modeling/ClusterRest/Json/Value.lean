import ClusterRest.Decimal.Shortest

/-! JSON values. An object keeps its members sorted by name. -/

namespace ClusterRest.Json

open Decimal

/-- A number: an integer of 64 bits, signed or not, or a floating-point number. -/
inductive Number where
  | natural (value : Nat)
  | negative (magnitude : Nat)
  | floating (value : Binary64)
  deriving DecidableEq, Repr, Inhabited

inductive Value where
  | null
  | bool (value : Bool)
  | number (value : Number)
  | string (value : String)
  | array (elements : List Value)
  | object (members : List (String × Value))
  deriving Repr, Inhabited

abbrev Members := List (String × Value)

/-- Puts a member into its place by name; a later member of the same name replaces it. -/
def insertMember (name : String) (value : Value) : Members → Members
  | [] => [(name, value)]
  | (other, present) :: rest =>
    if name = other then (name, value) :: rest
    else if name < other then (name, value) :: (other, present) :: rest
    else (other, present) :: insertMember name value rest

def lookup? (name : String) : Members → Option Value
  | [] => none
  | (other, value) :: rest => if name = other then some value else lookup? name rest

def ofMembers (members : Members) : Value :=
  .object (members.foldl (fun sorted (name, value) => insertMember name value sorted) [])

namespace Value

def text (value : String) : Value := .string value
def nat (value : Nat) : Value := .number (.natural value)

def int (value : Int) : Value :=
  .number (if value < 0 then .negative value.natAbs else .natural value.toNat)

end Value

end ClusterRest.Json
