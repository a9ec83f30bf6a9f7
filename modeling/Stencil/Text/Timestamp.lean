import Stencil.Text.Bytes

/-!
# Points in time as text

A point in time is written as a date, a time of day and an offset from universal time:
`2006-01-02T15:04:05Z`, or with `+01:00` in place of the `Z`. Reading is a little more
lenient than writing: the hour may have one digit, and the seconds a fraction after a point
or a comma. A day must exist in its month.
-/

namespace Stencil

open Bytes

/-- **A point in time** and where it was: seconds since the start of the year 1, the
fraction of a second in nanoseconds, and the offset from universal time in seconds. -/
structure Timestamp where
  /-- The seconds since the start of the year 1, in universal time. -/
  seconds : Int
  /-- The nanoseconds. -/
  nanos : Nat
  /-- The offset of local time from universal time, in seconds. -/
  offset : Int := 0
  deriving DecidableEq, Repr

namespace Timestamp

/-- The start of the year 1. -/
def zero : Timestamp := ⟨0, 0, 0⟩

/-- Whether a point in time is the start of the year 1. -/
def isZero (t : Timestamp) : Bool := t.seconds = 0 && t.nanos = 0

/-! ## The calendar -/

/-- Whether a year has a leap day. -/
def isLeap (y : Int) : Bool := y % 4 = 0 && (y % 100 ≠ 0 || y % 400 = 0)

/-- The number of days of a month. -/
def daysIn (y : Int) (m : Nat) : Nat :=
  if m = 2 then (if isLeap y then 29 else 28)
  else if m = 4 || m = 6 || m = 9 || m = 11 then 30
  else 31

/-- The days from the start of the year 1 to the start of a year. -/
def daysBeforeYear (y : Int) : Int :=
  let n := y - 1
  365 * n + n / 4 - n / 100 + n / 400

/-- The days from the start of a year to the start of a month. -/
def daysBeforeMonth (y : Int) (m : Nat) : Nat :=
  ((List.range (m - 1)).map fun i => daysIn y (i + 1)).foldr (· + ·) 0

/-- The days from the start of the year 1 to a date. -/
def daysBefore (y : Int) (m d : Nat) : Int := daysBeforeYear y + daysBeforeMonth y m + (d - 1 : Nat)

/-- The month and day of a day of a year, given the months still to come. -/
def monthOf (y : Int) : List Nat → Nat → Nat × Nat
  | [], rest => (12, rest + 1)
  | m :: ms, rest => if rest < daysIn y m then (m, rest + 1) else monthOf y ms (rest - daysIn y m)

/-- The date of a day since the start of the year 1. -/
def dateOf (days : Int) : Int × Nat × Nat :=
  -- the estimate is off by at most one year
  let guess := days * 400 / 146097 + 1
  let year := if days < daysBeforeYear guess then guess - 1
    else if daysBeforeYear (guess + 1) ≤ days then guess + 1 else guess
  let (m, d) := monthOf year [1, 2, 3, 4, 5, 6, 7, 8, 9, 10, 11, 12]
    (days - daysBeforeYear year).toNat
  (year, m, d)

/-! ## Writing -/

/-- A number with at least so many digits. -/
def padded (width : Nat) (n : Int) : Bytes :=
  let digits := Bytes.ofNat n.natAbs
  (if n < 0 then [ch '-'] else []) ++ List.replicate (width - digits.length) (ch '0') ++ digits

/-- An offset from universal time. -/
def offsetText (offset : Int) : Bytes :=
  if offset = 0 then "Z"
  else
    let minutes := offset.tdiv 60
    let sign := if minutes < 0 then ch '-' else ch '+'
    sign :: padded 2 (minutes.natAbs / 60) ++ ":" ++ padded 2 (minutes.natAbs % 60)

/-- The date and the time of day of a point in time, in its own local time. -/
def clockText (t : Timestamp) : Bytes :=
  let s := t.seconds + t.offset
  let (y, m, d) := dateOf (s / 86400)
  let r := s % 86400
  padded 4 y ++ "-" ++ padded 2 m ++ "-" ++ padded 2 d ++ "T" ++ padded 2 (r / 3600) ++ ":"
    ++ padded 2 (r / 60 % 60) ++ ":" ++ padded 2 (r % 60)

/-- **A point in time as text**, in whole seconds and in its own local time. -/
def render (t : Timestamp) : Bytes := t.clockText ++ offsetText t.offset

/-- The fraction of a second behind a point, without zeros at the end. -/
def fractionText (nanos : Nat) : Bytes :=
  if nanos = 0 then []
  else ch '.' :: ((padded 9 nanos).reverse.dropWhile (· = ch '0')).reverse

/-- A point in time as text, with the fraction of the second. -/
def renderExact (t : Timestamp) : Bytes :=
  t.clockText ++ fractionText t.nanos ++ offsetText t.offset

/-- A point in time in words: the offset from universal time, and again as the name of the
place, which only universal time has. -/
def renderLong (t : Timestamp) : Bytes :=
  let clock := t.clockText.map fun c => if c = ch 'T' then ch ' ' else c
  let minutes := t.offset.tdiv 60
  let sign : UInt8 := if minutes < 0 then ch '-' else ch '+'
  let zone : Bytes := sign :: padded 2 (minutes.natAbs / 60) ++ padded 2 (minutes.natAbs % 60)
  clock ++ fractionText t.nanos ++ " " ++ zone ++ " "
    ++ (if t.offset = 0 then ("UTC" : Bytes) else zone)

/-- The point in time so many nanoseconds after the start of the year 1, in universal
time. -/
def ofNanos (n : Int) : Timestamp := ⟨n / 1000000000, (n % 1000000000).toNat, 0⟩

/-- The point in time seen from universal time. -/
def universal (t : Timestamp) : Timestamp := { t with offset := 0 }

/-! ## Reading -/

/-- A given number of digits. -/
def digits? (n : Nat) (s : Bytes) : Option (Nat × Bytes) :=
  let ds := s.take n
  if ds.length = n && ds.all isDigit then some (digitsValue ds, s.drop n) else none

/-- One digit or two. -/
def shortDigits? (s : Bytes) : Option (Nat × Bytes) :=
  (digits? 2 s).orElse fun _ => digits? 1 s

/-- A given byte. -/
def byte? (c : UInt8) : Bytes → Option Bytes
  | [] => none
  | a :: s => if a = c then some s else none

/-- The fraction of a second, in nanoseconds; nothing is no fraction. -/
def fraction (s : Bytes) : Nat × Bytes :=
  match s with
  | c :: r =>
    let (ds, rest) := r.span isDigit
    if (c = ch '.' || c = ch ',') && !ds.isEmpty then
      (digitsValue ((ds ++ List.replicate 9 (ch '0')).take 9), rest)
    else (0, s)
  | [] => (0, [])

/-- An offset from universal time, at the end of a text. -/
def offset? (s : Bytes) : Option Int :=
  if s = "Z" then some 0
  else
    match s with
    | sign :: r => do
      let (h, r) ← digits? 2 r
      let r ← byte? (ch ':') r
      let (m, r) ← digits? 2 r
      if !r.isEmpty || 24 < h || 60 < m then none
      else if sign = ch '+' then some ((h * 60 + m) * 60)
      else if sign = ch '-' then some (-((h * 60 + m) * 60))
      else none
    | [] => none

/-- The point in time of a date, a time of day and an offset, if the day exists. -/
def ofParts? (year month day hour minute second nanos : Nat) (offset : Int) : Option Timestamp :=
  if month = 0 || 12 < month || day = 0 || daysIn year month < day || 24 ≤ hour || 60 ≤ minute
      || 60 ≤ second then none
  else
    let here := daysBefore year month day * 86400 + hour * 3600 + minute * 60 + second
    some ⟨here - offset, nanos, offset⟩

/-- A time of day with short numbers, its fraction, and what follows. -/
def shortClock? (s : Bytes) : Option (Nat × Nat × Nat × Nat × Bytes) := do
  let (hour, s) ← shortDigits? s
  let s ← byte? (ch ':') s
  let (minute, s) ← shortDigits? s
  let s ← byte? (ch ':') s
  let (second, s) ← shortDigits? s
  let (nanos, s) := fraction s
  return (hour, minute, second, nanos, s)

/-- **The point in time that a text says in one of the forms of a data file**: a date alone, one
with a time of day behind blanks, or one with a time of day and an offset behind the letter T in
either case. All numbers but the year may have one digit only. -/
def parseShort? (s : Bytes) : Option Timestamp := do
  let (year, s) ← digits? 4 s
  let s ← byte? (ch '-') s
  let (month, s) ← shortDigits? s
  let s ← byte? (ch '-') s
  let (day, s) ← shortDigits? s
  match s with
  | [] => ofParts? year month day 0 0 0 0 0
  | c :: r =>
    if lowerByte c = ch 't' then
      let (hour, minute, second, nanos, r) ← shortClock? r
      let offset ← offset? r
      ofParts? year month day hour minute second nanos offset
    else if c = ch ' ' then
      let (hour, minute, second, nanos, r) ← shortClock? (r.dropWhile (· = ch ' '))
      if r.isEmpty then ofParts? year month day hour minute second nanos 0 else none
    else none

/-- **The point in time that a text says.** -/
def parse? (s : Bytes) : Option Timestamp := do
  let (year, s) ← digits? 4 s
  let s ← byte? (ch '-') s
  let (month, s) ← digits? 2 s
  let s ← byte? (ch '-') s
  let (day, s) ← digits? 2 s
  let s ← byte? (ch 'T') s
  let (hour, s) ← shortDigits? s
  let s ← byte? (ch ':') s
  let (minute, s) ← digits? 2 s
  let s ← byte? (ch ':') s
  let (second, s) ← digits? 2 s
  let (nanos, s) := fraction s
  let offset ← offset? s
  ofParts? year month day hour minute second nanos offset

end Timestamp

end Stencil
