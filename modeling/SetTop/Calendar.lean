import SetTop.Number.Checked
import SetTop.Number.Reading

/-!
Dates and times of day, in universal time.
-/

namespace SetTop

structure Moment where
  year : Int
  month : Nat
  day : Nat
  hour : Nat := 0
  minute : Nat := 0
  second : Nat := 0
  micro : Nat := 0
deriving DecidableEq, Inhabited

namespace Moment

/-- The date of a day counted from 1970 on. Years start in March, so that the leap day comes last.
-/
def dateOfDay (day : Int) : Int × Nat × Nat :=
  let z := day + 719468
  let era := z.fdiv 146097
  let doe := (z - era * 146097).toNat
  let yoe := (doe - doe / 1460 + doe / 36524 - doe / 146096) / 365
  let doy := doe - (365 * yoe + yoe / 4 - yoe / 100)
  let mp := (5 * doy + 2) / 153
  let d := doy - (153 * mp + 2) / 5 + 1
  let m := if mp < 10 then mp + 3 else mp - 9
  (era * 400 + yoe + (if m ≤ 2 then 1 else 0), m, d)

def isLeap (year : Int) : Bool := year % 4 == 0 && (year % 100 != 0 || year % 400 == 0)

def daysInMonth (year : Int) (month : Nat) : Nat :=
  if month = 2 then (if isLeap year then 29 else 28)
  else if [4, 6, 9, 11].contains month then 30 else 31

variable (m : Moment)

def isValid : Bool :=
  1 ≤ m.year && m.year ≤ 9999 && 1 ≤ m.month && m.month ≤ 12 && 1 ≤ m.day &&
    m.day ≤ daysInMonth m.year m.month && m.hour < 24 && m.minute < 60 && m.second < 60 &&
    m.micro < 1000000

/-- The nearest integer; a half goes to the even neighbour. -/
def roundHalfEven (x : Float) : Int :=
  let low := x.floor
  let n := (Num.truncate? (Num.ofFloat low)).getD 0
  let rest := x - low
  if rest < 0.5 then n
  else if rest > 0.5 then n + 1
  else if n % 2 = 0 then n else n + 1

def splitSeconds : Num → Int × Nat
  | .int n => (n, 0)
  | t =>
    let x := t.toFloat
    let whole := (Num.truncate? (Num.ofFloat x)).getD 0
    let micro := roundHalfEven ((x - Float.ofInt whole) * 1000000.0)
    if micro ≥ 1000000 then (whole + 1, (micro - 1000000).toNat)
    else if micro < 0 then (whole - 1, (micro + 1000000).toNat)
    else (whole, micro.toNat)

def microseconds (t : Num) : Int :=
  let (seconds, micro) := splitSeconds t
  seconds * 1000000 + micro

def ofMicroseconds (t : Int) : Moment :=
  let seconds := t.fdiv 1000000
  let (year, month, day) := dateOfDay (seconds.fdiv 86400)
  let rest := (seconds.fmod 86400).toNat
  ⟨year, month, day, rest / 3600, rest / 60 % 60, rest % 60, (t.fmod 1000000).toNat⟩

def inRange (t : Int) : Bool := -62135596800000000 ≤ t && t < 253402300800000000

def digits (width : Nat) (n : Int) : String := Number.padded width n.toNat

def dateText : String :=
  digits 4 m.year ++ "-" ++ digits 2 m.month ++ "-" ++ digits 2 m.day

def timeText (sep : String) : String :=
  digits 2 m.hour ++ sep ++ digits 2 m.minute ++ sep ++ digits 2 m.second

def stamp : String := m.timeText ":" ++ "." ++ digits 2 (m.micro / 10000 : Nat)

/-- Date and time; fractions of a second are shown only if there are any. -/
def text : String :=
  m.dateText ++ "T" ++ m.timeText ":" ++ (if m.micro = 0 then "" else "." ++ digits 6 m.micro)

end Moment

namespace Span

def check (t : Int) : Except Fault Int :=
  if (t.fdiv 86400000000).natAbs < 1000000000 then .ok t
  else .error (.foreign .overflow "days=%d; must have magnitude <= 999999999")

def ofSeconds (t : Num) : Except Fault Int := do
  let _ ← t.whole
  check (Moment.microseconds t)

def seconds (t : Int) : Num := .ofFloat (Number.Decimal.double (t < 0) ⟨t.natAbs, -6⟩)

end Span

end SetTop
