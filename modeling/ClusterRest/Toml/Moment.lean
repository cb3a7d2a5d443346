import ClusterRest.Text.Ascii

/-! Dates and times of TOML, in their canonical form. -/

namespace ClusterRest.Toml

open Text

def between (least greatest number : Nat) : Option Nat :=
  if least ≤ number && number ≤ greatest then some number else none

/-- The number that two digits write, and what follows them. -/
def twoDigits? : List Char → Option (Nat × List Char)
  | tens :: ones :: rest =>
    if isDigit tens && isDigit ones then some (decimalOfDigits [tens, ones], rest) else none
  | _ => none

def isLeapYear (year : Nat) : Bool := year % 4 = 0 && (year % 100 ≠ 0 || year % 400 = 0)

def daysIn (year month : Nat) : Nat :=
  match month with
  | 2 => if isLeapYear year then 29 else 28
  | 4 | 6 | 9 | 11 => 30
  | _ => 31

/-- A date, and what follows it. -/
def date? : List Char → Option (List Char × List Char)
  | a :: b :: c :: d :: '-' :: rest => do
    if !([a, b, c, d].all isDigit) then none
    let (month, afterMonth) ← twoDigits? rest
    let month ← between 1 12 month
    match afterMonth with
    | '-' :: afterDash =>
      let (day, afterDay) ← twoDigits? afterDash
      discard (between 1 (daysIn (decimalOfDigits [a, b, c, d]) month) day)
      return ([a, b, c, d, '-'] ++ rest.take 5, afterDay)
    | _ => none
  | _ => none

/-- Fractions of a second have nine digits at most; zeros at their end do not count. -/
def fraction (digits : List Char) : List Char :=
  let significant := ((digits.take 9).reverse.dropWhile (· = '0')).reverse
  if significant.isEmpty then [] else '.' :: significant

/-- A time of day, and what follows it. -/
def time? (text : List Char) : Option (List Char × List Char) := do
  let (hour, afterHour) ← twoDigits? text
  discard (between 0 23 hour)
  match afterHour with
  | ':' :: afterColon =>
    let (minute, afterMinute) ← twoDigits? afterColon
    discard (between 0 59 minute)
    match afterMinute with
    | ':' :: afterColon =>
      let (second, afterSecond) ← twoDigits? afterColon
      discard (between 0 60 second)
      match afterSecond with
      | '.' :: afterPoint =>
        let digits := afterPoint.takeWhile isDigit
        if digits.isEmpty then none
        return (text.take 8 ++ fraction digits, afterPoint.drop digits.length)
      | _ => return (text.take 8, afterSecond)
    | _ => none
  | _ => none

/-- The distance from universal time, which ends a moment. -/
def offset? : List Char → Option (List Char)
  | [] => some []
  | ['Z'] | ['z'] => some ['Z']
  | [sign, a, b, ':', c, d] => do
    if sign ≠ '+' && sign ≠ '-' then none
    let (hours, _) ← twoDigits? [a, b]
    let (minutes, _) ← twoDigits? [c, d]
    discard (between 0 23 hours)
    discard (between 0 59 minutes)
    return (if hours = 0 && minutes = 0 then '+' else sign) :: [a, b, ':', c, d]
  | _ => none

def isTimeMark (character : Char) : Bool :=
  character = 'T' || character = 't' || character = ' '

/-- A date with or without a time and a distance, or a time alone. -/
def moment? (text : List Char) : Option (List Char) :=
  match date? text with
  | some (date, []) => some date
  | some (date, mark :: rest) => do
    if !isTimeMark mark then none
    let (time, afterTime) ← time? rest
    return date ++ 'T' :: time ++ (← offset? afterTime)
  | none =>
    match time? text with
    | some (time, []) => some time
    | _ => none

end ClusterRest.Toml
