import ClusterRest.Bytes

/-! Tables over code points, written as text. -/

namespace ClusterRest.Text

/-- A row of a table: the code points `first` to `last` and the values that they share. -/
structure CodeRow where
  first : Nat
  last : Nat
  values : List Nat

abbrev CodeTable := Array CodeRow

namespace CodeTable

def hexNumber (text : String) : Nat :=
  text.toList.foldl (fun number digit => 16 * number + ((Bytes.ofHexDigit? digit).getD 0).toNat) 0

def rowOfText (text : String) : CodeRow :=
  let (codes, values) := match text.splitOn ":" with
    | [codes, ""] => (codes, [])
    | [codes, values] => (codes, (values.splitOn ",").map hexNumber)
    | _ => (text, [])
  match codes.splitOn "-" with
  | [first, last] => ⟨hexNumber first, hexNumber last, values⟩
  | _ => ⟨hexNumber codes, hexNumber codes, values⟩

/-- The words of a text, between blanks and line ends. -/
def words (text : String) : List String :=
  ((text.splitOn "\n").flatMap (·.splitOn " ")).filter (!·.isEmpty)

/-- Reads rows parted by blanks, each `first-last:value,value` in hexadecimal. -/
def ofText (text : String) : CodeTable := ((words text).map rowOfText).toArray

def row? (table : CodeTable) (code : Nat) : Option CodeRow :=
  table.find? fun row => row.first ≤ code && code ≤ row.last

def has (table : CodeTable) (character : Char) : Bool := (table.row? character.toNat).isSome

end CodeTable

end ClusterRest.Text
