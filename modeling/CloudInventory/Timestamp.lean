/-! Moments in universal time, and the calendar of their dates. -/

namespace CloudInventory

/-- Seconds since the beginning of 1970, and the nanoseconds after them. From a thousand million
nanoseconds on the moment lies in a leap second. -/
structure Timestamp where
  seconds : Int
  nanos : Nat
deriving DecidableEq, Repr

namespace Timestamp

structure Date where
  year : Int
  month : Nat
  day : Nat

def daySeconds : Int := 86400

/-- Counts in eras of 400 years that begin in March, so that a leap day comes last. -/
def dateOfDay (day : Int) : Date :=
  let z := day + 719468
  let era := z.fdiv 146097
  let inEra := z.fmod 146097
  let year := (inEra - inEra / 1460 + inEra / 36524 - inEra / 146096) / 365
  let inYear := inEra - (365 * year + year / 4 - year / 100)
  let m := (5 * inYear + 2) / 153
  let d := inYear - (153 * m + 2) / 5 + 1
  let month := if m < 10 then m + 3 else m - 9
  let y := year + era * 400
  ⟨if month ≤ 2 then y + 1 else y, month.toNat, d.toNat⟩

def padded (width n : Nat) : String :=
  let ds := Nat.toDigits 10 n
  String.ofList (List.replicate (width - ds.length) '0' ++ ds)

/-- Years of four digits; all others have a sign. -/
def yearText (y : Int) : String :=
  if 0 ≤ y ∧ y ≤ 9999 then padded 4 y.toNat
  else (if y < 0 then "-" else "+") ++ padded 4 y.natAbs

def leapSecond (t : Timestamp) : Bool := 1000000000 ≤ t.nanos

def date (t : Timestamp) : Date := dateOfDay (t.seconds.fdiv daySeconds)

def dateText (t : Timestamp) : String :=
  let d := t.date
  s!"{yearText d.year}-{padded 2 d.month}-{padded 2 d.day}"

def timeText (t : Timestamp) : String :=
  let s := (t.seconds.fmod daySeconds).toNat
  let second := s % 60 + (if t.leapSecond then 1 else 0)
  s!"{padded 2 (s / 3600)}:{padded 2 (s / 60 % 60)}:{padded 2 second}"

/-- Three, six or nine digits, as few as hold the fraction. -/
def fractionText (t : Timestamp) : String :=
  let n := if t.leapSecond then t.nanos - 1000000000 else t.nanos
  if n = 0 then ""
  else if n % 1000000 = 0 then s!".{padded 3 (n / 1000000)}"
  else if n % 1000 = 0 then s!".{padded 6 (n / 1000)}"
  else s!".{padded 9 n}"

def text (t : Timestamp) : String := s!"{t.dateText}T{t.timeText}{t.fractionText}Z"

def shortText (t : Timestamp) : String := s!"{t.dateText} {t.timeText} UTC"

/-- The moment given by seconds and nanoseconds; a leap second ends a minute. -/
def of? (seconds : Int) (nanos : Nat) : Option Timestamp :=
  let day := seconds.fdiv daySeconds
  if nanos < 2000000000 ∧ (nanos < 1000000000 ∨ seconds.fmod 60 = 59) ∧
      -96465292 ≤ day + 719162 ∧ day + 719162 ≤ 95745034 then
    some ⟨seconds, nanos⟩
  else none

end Timestamp

end CloudInventory
