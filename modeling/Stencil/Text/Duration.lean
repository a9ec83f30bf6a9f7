import Stencil.Text.Quoted

/-!
# Durations as text

A duration is a number of nanoseconds. As text it is a sign and numbers with units, such as
`1h2m3.5s`; a number may have a fraction. Writing uses hours, minutes and seconds, and for
less than a second the largest unit that leaves a whole number in front of the point.
-/

namespace Stencil.Duration

open Bytes

/-- The units of time, in nanoseconds. -/
def unit? (name : Bytes) : Option Nat :=
  if name = "ns" then some 1
  else if name = "us" || name = "µs" || name = "μs" then some 1000
  else if name = "ms" then some 1000000
  else if name = "s" then some 1000000000
  else if name = "m" then some 60000000000
  else if name = "h" then some 3600000000000
  else none

/-- The bytes that a number is made of. -/
def isNumberByte (c : UInt8) : Bool := isDigit c || c = ch '.'

/-- The longest run of leading digits that is a number of 63 bits. -/
def fractionDigits : Nat → Bytes → Bytes
  | _, [] => []
  | n, c :: s =>
    if (Nat.pow 2 63 - 1) / 10 < n then []
    else
      let m := 10 * n + (c.toNat - 48)
      if Nat.pow 2 63 < m then [] else c :: fractionDigits m s

/-- The nanoseconds of a fraction of a unit, given by its digits. -/
def fractionOf (unit : Nat) (digits : Bytes) : Nat :=
  let ds := fractionDigits 0 digits
  let scale := Float.ofNat (Nat.pow 10 ds.length)
  (Float.ofNat (digitsValue ds) * (Float.ofNat unit / scale)).toUInt64.toNat

/-- The sum of numbers with units, with a bound on how many there are. -/
def sum? : Nat → Bytes → Option Nat
  | 0, _ => none
  | _, [] => some 0
  | n + 1, s =>
    let (whole, r) := s.span isDigit
    let (fraction, r) : Bytes × Bytes := match r with
      | c :: t => if c = ch '.' then t.span isDigit else ([], r)
      | [] => ([], [])
    let (name, rest) := r.span fun c => !isNumberByte c
    if whole.isEmpty && fraction.isEmpty then none
    else
      match unit? name with
      | none => none
      | some u =>
        let v := digitsValue whole * u + fractionOf u fraction
        if Nat.pow 2 63 < v then none
        else
          match sum? n rest with
          | none => none
          | some d => if Nat.pow 2 63 < v + d then none else some (v + d)

/-- **The duration that a text says.** -/
def parse? (s : Bytes) : Option Int :=
  let (negative, r) : Bool × Bytes := match s with
    | c :: t => if c = ch '-' then (true, t) else if c = ch '+' then (false, t) else (false, s)
    | [] => (false, [])
  if r = "0" then some 0
  else if r.isEmpty then none
  else
    match sum? (r.length + 1) r with
    | none => none
    | some d =>
      if negative then some (-d) else if Nat.pow 2 63 ≤ d then none else some d

/-- What is wrong with a text that says no duration, from its first number on: nothing that
has a name of its own, a number without a unit, or an unknown unit. -/
def fault : Nat → Bytes → Option (Option Bytes)
  | 0, _ => none
  | _, [] => none
  | n + 1, s =>
    let (whole, r) := s.span isDigit
    let (fraction, r) : Bytes × Bytes := match r with
      | c :: t => if c = ch '.' then t.span isDigit else ([], r)
      | [] => ([], [])
    let (name, rest) := r.span fun c => !isNumberByte c
    if whole.isEmpty && fraction.isEmpty then none
    else if name.isEmpty then some none
    else if (unit? name).isNone then some (some name)
    else fault n rest

/-- **What is said about a text that says no duration.** -/
def complaint (s : Bytes) : Bytes :=
  let unsigned := match s with
    | c :: t => if c = ch '-' || c = ch '+' then t else s
    | [] => []
  match fault (unsigned.length + 1) unsigned with
  | none => "time: invalid duration " ++ Quoted.quote s
  | some none => "time: missing unit in duration " ++ Quoted.quote s
  | some (some unit) =>
    "time: unknown unit " ++ Quoted.quote unit ++ " in duration " ++ Quoted.quote s

/-- A number with so many decimal places, without trailing zeros. -/
def withPlaces (n places : Nat) : Bytes :=
  let digits := Bytes.ofNat (n % Nat.pow 10 places)
  let fraction := List.replicate (places - digits.length) (ch '0') ++ digits
  let kept := if places = 0 then [] else (fraction.reverse.dropWhile (· = ch '0')).reverse
  Bytes.ofNat (n / Nat.pow 10 places) ++ (if kept.isEmpty then [] else ch '.' :: kept)

/-- **A duration as text.** -/
def render (d : Int) : Bytes :=
  let n := d.natAbs
  let sign : Bytes := if d < 0 then "-" else []
  let text : Bytes :=
    if n = 0 then "0s"
    else if n < 1000 then withPlaces n 0 ++ "ns"
    else if n < 1000000 then withPlaces n 3 ++ "µs"
    else if n < 1000000000 then withPlaces n 6 ++ "ms"
    else
      let minutes := n / 60000000000
      let seconds := withPlaces (n % 60000000000) 9 ++ "s"
      if minutes = 0 then seconds
      else
        let rest := Bytes.ofNat (minutes % 60) ++ "m" ++ seconds
        if minutes / 60 = 0 then rest else Bytes.ofNat (minutes / 60) ++ "h" ++ rest
  sign ++ text

end Stencil.Duration
