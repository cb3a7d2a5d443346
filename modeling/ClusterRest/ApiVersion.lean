import ClusterRest.Text.Ascii
import ClusterRest.Text.Blank
import ClusterRest.Text.Pieces

/-! Versions of the platform API. -/

namespace ClusterRest

structure ApiVersion where
  major : Nat
  minor : Nat
  deriving DecidableEq, Repr, Inhabited

namespace ApiVersion

open Text

/-- Each number of a version fits a byte. -/
def greatestNumber : Nat := 255

def leastMajor : Nat := 3

/-- What a cluster is taken to run that reports no version. -/
def unreported : ApiVersion := ⟨2, 0⟩

/-- Reads `major.minor` or `major` alone, with blanks around it. -/
def parse? (text : String) : Option ApiVersion :=
  let trimmed := trimChars text.toList
  match cutChars '.' trimmed with
  | none => do return ⟨← boundedNat? greatestNumber trimmed, 0⟩
  | some (major, minor) => do
    return ⟨← boundedNat? greatestNumber major, ← boundedNat? greatestNumber minor⟩

def isSupported (version : ApiVersion) : Bool := leastMajor ≤ version.major

def toText (version : ApiVersion) : String :=
  toString version.major ++ "." ++ toString version.minor

/-- Whether a version comes before or with another. -/
def isAtMost (first second : ApiVersion) : Bool :=
  first.major < second.major || (first.major = second.major && first.minor ≤ second.minor)

end ApiVersion

end ClusterRest
