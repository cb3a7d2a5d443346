/-! Durations and their readable form. -/

namespace ClusterRest

/-- A span of time in whole nanoseconds. -/
structure Duration where
  nanoseconds : Nat
  deriving DecidableEq, Repr, Inhabited

namespace Duration

def nanosPerSecond : Nat := 1000000000

def ofSeconds (seconds : Nat) : Duration := ⟨seconds * nanosPerSecond⟩

def ofMillis (millis : Nat) : Duration := ⟨millis * 1000000⟩

def ofParts (seconds nanos : Nat) : Duration := ⟨seconds * nanosPerSecond + nanos⟩

def seconds (duration : Duration) : Nat := duration.nanoseconds / nanosPerSecond

def subsecondNanos (duration : Duration) : Nat := duration.nanoseconds % nanosPerSecond

def secondsPerDay : Nat := 86400

/-- A month is a twelfth of a year, rounded to hundredths of a day. -/
def secondsPerMonth : Nat := 2630016

/-- A year has 365.25 days. -/
def secondsPerYear : Nat := 31557600

def item (name : String) (count : Nat) : List String :=
  if count = 0 then [] else [toString count ++ name]

def pluralItem (name : String) (count : Nat) : List String :=
  item (if count > 1 then name ++ "s" else name) count

/-- The duration in units from years down to nanoseconds, leaving out those that are zero. -/
def toText (duration : Duration) : String :=
  let seconds := duration.seconds
  let inYear := seconds % secondsPerYear
  let inMonth := inYear % secondsPerMonth
  let inDay := inMonth % secondsPerDay
  let nanos := duration.subsecondNanos
  let items :=
    pluralItem "year" (seconds / secondsPerYear) ++ pluralItem "month" (inYear / secondsPerMonth) ++
    pluralItem "day" (inMonth / secondsPerDay) ++ item "h" (inDay / 3600) ++
    item "m" (inDay % 3600 / 60) ++ item "s" (inDay % 60) ++ item "ms" (nanos / 1000000) ++
    item "us" (nanos / 1000 % 1000) ++ item "ns" (nanos % 1000)
  if items.isEmpty then "0s" else " ".intercalate items

end Duration

end ClusterRest
