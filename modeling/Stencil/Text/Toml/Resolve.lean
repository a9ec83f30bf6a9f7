import Stencil.Config.Setting
import Stencil.Text.Timestamp
import Stencil.Text.Toml

/-!
# What a TOML document says

A document is read line by line. Each line first has to fit to those before: a key is
defined once, a table is opened once, and what has a value is no table. Then its numbers
and dates are understood, and then it is part of the result.

`Known` remembers for each path what it is. A table is explicit once its head was read, or
once another head was read after keys made it; a further key cannot reach into it.
-/

namespace Stencil.Toml

open Bytes

/-! ## Numbers and dates -/

/-- A number without its underscores, which have to stand between digits. The sign of an
integer counts as no digit. -/
def withoutUnderscores (signed : Bool) (s : Bytes) : Except Flaw Bytes :=
  let body := match s with
    | c :: r => if signed && (c = ch '+' || c = ch '-') then r else s
    | [] => []
  if body.isEmpty then .ok s
  else if body.head? = some (ch '_') then .error (.plain "number cannot start with underscore")
  else if body.getLast? = some (ch '_') then .error (.plain "number cannot end with underscore")
  else if (s.zip (s.drop 1)).any fun (a, b) => a = ch '_' && b = ch '_' then
    .error (.plain "number must have at least one digit between underscores")
  else .ok (s.filter (· ≠ ch '_'))

/-- Whether a character is a sign. -/
def isSign (c : UInt8) : Bool := c = ch '+' || c = ch '-'

/-- What is said about digits that are no number. -/
def numberComplaint (what : Bytes) (reader : Bytes) (digits : Bytes) (f : Numeral.Flaw) : Flaw :=
  .clash (what ++ ": strconv." ++ reader ++ ": parsing " ++ Quoted.quote digits ++ ": "
    ++ f.message)

/-- An integer. -/
def integer (s : Bytes) : Except Flaw Setting := do
  let based (base : Nat) (what : Bytes) : Except Flaw Setting := do
    let digits ← withoutUnderscores true (s.drop 2)
    match Numeral.integerInBase base digits with
    | .ok n => return .long n
    | .error f =>
      .error (numberComplaint ("couldn't parse " ++ what ++ " number") "ParseInt" digits f)
  if 2 < s.length && startsWith s "0x" then based 16 "hexadecimal"
  else if 2 < s.length && startsWith s "0o" then based 8 "octal"
  else if 2 < s.length && startsWith s "0b" then based 2 "binary"
  else
    let digits ← withoutUnderscores true s
    let body := if digits.head?.any isSign then digits.drop 1 else digits
    if 1 < body.length && body.head? = some (ch '0') then
      .error (.plain "leading zero not allowed on decimal number")
    else
      match Numeral.integerInBase 10 digits with
      | .ok n => return .long n
      | .error f => .error (numberComplaint "couldn't parse decimal number" "ParseInt" digits f)

/-- The first fault of the points of a fraction. -/
def pointFlaw? (s : Bytes) : Option String :=
  go none false s
where
  /-- The same, behind a character, given whether there was a point. -/
  go (before : Option UInt8) (seen : Bool) : Bytes → Option String
    | [] => none
    | c :: r =>
      if c ≠ ch '.' then go (some c) seen r
      else if seen then some "float can have at most one decimal point"
      else if !before.any isDigit then some "float decimal point must be preceded by a digit"
      else if !r.head?.any isDigit then some "float decimal point must be followed by a digit"
      else go (some c) true r

/-- Whether digits with a point and an exponent write a number. -/
def isFraction (s : Bytes) : Bool :=
  let body := if s.head?.any isSign then s.drop 1 else s
  let (mantissa, exponent) := body.span fun c => lowerByte c ≠ ch 'e'
  let digits := mantissa.filter (· ≠ ch '.')
  let power := exponent.drop 1
  let power := if power.head?.any isSign then power.drop 1 else power
  !digits.isEmpty && digits.all isDigit
    && (exponent.isEmpty || (!power.isEmpty && power.all isDigit))

/-- A fraction. -/
def fraction (s : Bytes) : Except Flaw Setting := do
  let body := if s.head?.any isSign then s.drop 1 else s
  if body = "nan" then return .float 0x7ff8000000000001
  if body = "inf" then
    return .float (if s.head? = some (ch '-') then 0xfff0000000000000 else 0x7ff0000000000000)
  let digits ← withoutUnderscores false s
  if digits.head? = some (ch '.') then .error (.plain "float cannot start with a dot")
  if digits.getLast? = some (ch '.') then .error (.plain "float cannot end with a dot")
  match pointFlaw? digits with
  | some m => .error (.plain m)
  | none =>
    let whole := if digits.head?.any isSign then digits.drop 1 else digits
    if whole.head? = some (ch '0') && (whole.drop 1).head?.any isDigit then
      .error (.plain "float integer part cannot have leading zeroes")
    else if !isFraction digits then
      .error (numberComplaint "unable to parse float" "ParseFloat" digits .malformed)
    else
      let bits := Decimal.toBits digits
      if (bits >>> 52) &&& 0x7ff = 0x7ff then
        .error (numberComplaint "unable to parse float" "ParseFloat" digits .tooLarge)
      else return .float bits

/-- The number that all characters of a text write. -/
def allDigits (s : Bytes) : Except Flaw Nat :=
  if s.all isDigit then .ok (digitsValue s) else .error (.plain "expected digit (0-9)")

/-- A date. -/
def date (s : Bytes) : Except Flaw (Nat × Nat × Nat) := do
  if s.length ≠ 10 || s[4]? ≠ some (ch '-') || s[7]? ≠ some (ch '-') then
    .error (.plain "dates are expected to have the format YYYY-MM-DD")
  let year ← allDigits (s.take 4)
  let month ← allDigits ((s.drop 5).take 2)
  let day ← allDigits (s.drop 8)
  if month = 0 || 12 < month || day = 0 || Timestamp.daysIn year month < day then
    .error (.plain "impossible date")
  return (year, month, day)

/-- A time of day with its fraction, and what follows. -/
def clock (s : Bytes) : Except Flaw ((Nat × Nat × Nat × Nat) × Bytes) := do
  if s.length < 8 then
    .error (.plain "times are expected to have the format HH:MM:SS[.NNNNNN]")
  let hour ← allDigits (s.take 2)
  if 23 < hour then .error (.plain "hour cannot be greater 23")
  if s[2]? ≠ some (ch ':') then .error (.plain "expecting colon between hours and minutes")
  let minute ← allDigits ((s.drop 3).take 2)
  if 59 < minute then .error (.plain "minutes cannot be greater 59")
  if s[5]? ≠ some (ch ':') then .error (.plain "expecting colon between minutes and seconds")
  let second ← allDigits ((s.drop 6).take 2)
  if 59 < second then .error (.plain "seconds cannot be greater 59")
  let rest := s.drop 8
  if rest.head? ≠ some (ch '.') then return ((hour, minute, second, 0), rest)
  let digits := (rest.drop 1).takeWhile isDigit
  if digits.isEmpty then .error (.plain "need at least one digit after fraction point")
  let nanos := digitsValue ((digits ++ List.replicate 9 (ch '0')).take 9)
  return ((hour, minute, second, nanos), rest.drop (1 + digits.length))

/-- A date with a time of day, and what follows. -/
def dateClock (s : Bytes) :
    Except Flaw ((Nat × Nat × Nat) × (Nat × Nat × Nat × Nat) × Bytes) := do
  if s.length < 11 then
    .error (.plain
      "local datetimes are expected to have the format YYYY-MM-DDTHH:MM:SS[.NNNNNNNNN]")
  let day ← date (s.take 10)
  if !s[10]?.any fun c => lowerByte c = ch 't' || c = 0x20 then
    .error (.plain "datetime separator is expected to be T or a space")
  let (time, rest) ← clock (s.drop 11)
  return (day, time, rest)

/-- The offset of a point in time, in seconds. -/
def offset (s : Bytes) : Except Flaw Int := do
  match s with
  | [] => .error (.plain "invalid date-time timezone")
  | c :: r =>
    if lowerByte c = ch 'z' then
      if r.isEmpty then return 0 else .error (.plain "extra bytes at the end of the timezone")
    if s.length ≠ 6 then .error (.plain "invalid date-time timezone")
    if !isSign c then .error (.plain "invalid timezone offset character")
    if s[3]? ≠ some (ch ':') then .error (.plain "expected a : separator")
    let hours ← allDigits (r.take 2)
    if 23 < hours then .error (.plain "invalid timezone offset hours")
    let minutes ← allDigits (r.drop 3)
    if 59 < minutes then .error (.plain "invalid timezone offset minutes")
    let seconds : Int := (hours * 3600 + minutes * 60 : Nat)
    return if c = ch '-' then -seconds else seconds

/-- A number or a date. -/
def scalarSetting (kind : Kind) (raw : Bytes) : Except Flaw Setting := do
  match kind with
  | .integer => integer raw
  | .fraction => fraction raw
  | .date =>
    let _ ← date raw
    return .other "toml.LocalDate" raw
  | .clock =>
    let (_, rest) ← clock raw
    if !rest.isEmpty then .error (.plain "extra characters at the end of a local time")
    return .other "toml.LocalTime" raw
  | .dateClock =>
    let (_, _, rest) ← dateClock raw
    if !rest.isEmpty then .error (.plain "extra characters at the end of a local date time")
    return .other "toml.LocalDateTime" (raw.take 10 ++ [ch 'T'] ++ raw.drop 11)
  | .instant =>
    let ((year, month, day), (hour, minute, second, nanos), rest) ← dateClock raw
    let zone ← offset rest
    match Timestamp.ofParts? year month day hour minute second nanos zone with
    | some t => return .time t.renderLong
    | none => .error (.plain "impossible date")

/-! ## Keys and tables that are known -/

/-- What a path is. -/
inductive Role where
  /-- A value. -/
  | value
  /-- A table. -/
  | table
  /-- An array of tables. -/
  | tables
  deriving DecidableEq

/-- How messages call what a path is. -/
def Role.name : Role → Bytes
  | .value => "value"
  | .table => "table"
  | .tables => "array table"

/-- What is known about a path. -/
structure Fact where
  /-- What it is. -/
  role : Role
  /-- Whether no key can reach into it any more. -/
  explicit : Bool := false
  /-- Whether a key made it. -/
  byKey : Bool := false

/-- **What is known about paths**, and the path of the table that is open. -/
structure Known where
  /-- The facts. -/
  facts : List (List Bytes × Fact) := []
  /-- The open table. -/
  current : List Bytes := []

namespace Known

/-- What is known about a path. -/
def at? (k : Known) (path : List Bytes) : Option Fact :=
  (k.facts.find? fun e => e.1 = path).map Prod.snd

/-- Another fact about a path. -/
def set (k : Known) (path : List Bytes) (f : Fact) : Known :=
  { k with facts := (path, f) :: k.facts.filter fun e => e.1 ≠ path }

/-- Whether a path leads through another one. -/
def isBelow (path : List Bytes) (p : List Bytes) : Bool :=
  path.length < p.length && p.take path.length = path

/-- The tables that keys made below the open one are explicit. -/
def settle (k : Known) : Known :=
  { k with facts := k.facts.map fun (p, f) =>
      if isBelow k.current p && f.byKey then (p, { f with explicit := true, byKey := false })
      else (p, f) }

/-- The tables on the way to a path. -/
def through (k : Known) (start : List Bytes) : List Bytes → Except Flaw Known
  | [] => .ok k
  | n :: rest =>
    let path := start ++ [n]
    match k.at? path with
    | none => through (k.set path { role := .table }) path rest
    | some f =>
      if f.role = .value then
        .error (.clash ("expected " ++ n ++ " to be a table, not a " ++ f.role.name))
      else through k path rest

/-- Opens a table. -/
def openTable (k : Known) (key : List Bytes) : Except Flaw Known := do
  let k ← k.settle.through [] key.dropLast
  let last := key.getLast?.getD []
  match k.at? key with
  | none => return { k.set key { role := .table, explicit := true } with current := key }
  | some f =>
    if f.role ≠ .table then
      .error (.clash ("key " ++ last ++ " should be a table, not a " ++ f.role.name))
    else if f.explicit then .error (.clash ("table " ++ last ++ " already exists"))
    else return { k.set key { f with explicit := true } with current := key }

/-- Opens one more table of an array, which knows nothing of the one before. -/
def openItem (k : Known) (key : List Bytes) : Except Flaw Known := do
  let k ← k.settle.through [] key.dropLast
  let last := key.getLast?.getD []
  match k.at? key with
  | none => return { k.set key { role := .tables, explicit := true } with current := key }
  | some f =>
    if f.role ≠ .tables then
      .error (.clash ("key " ++ f.role.name ++ " already exists as a " ++ last
        ++ ",  but should be an array table"))
    else
      return { k with facts := k.facts.filter (fun e => !isBelow key e.1), current := key }

/-- Defines the rest of a key. -/
def define (k : Known) (start : List Bytes) : List Bytes → Except Flaw Known
  | [] => .ok k
  | n :: rest =>
    let path := start ++ [n]
    match k.at? path with
    | none =>
      let role : Role := if rest.isEmpty then .value else .table
      define (k.set path { role := role, byKey := true }) path rest
    | some f =>
      if rest.isEmpty then .error (.clash ("key " ++ n ++ " is already defined"))
      else if f.role ≠ .table then
        .error (.clash ("expected " ++ n ++ " to be a table, not a " ++ f.role.name))
      else if f.explicit then
        .error (.clash ("cannot redefine table " ++ n
          ++ " that has already been explicitly defined"))
      else define k path rest

mutual

/-- Checks the tables in a value, each on its own. -/
def checkValue : Value → Except Flaw Unit
  | .array vs => checkItems vs
  | .table ps => checkPairs {} ps
  | _ => .ok ()

/-- Checks the tables in values. -/
def checkItems : List Value → Except Flaw Unit
  | [] => .ok ()
  | v :: vs => do
    checkValue v
    checkItems vs

/-- Checks the pairs of a table. -/
def checkPairs (k : Known) : List (List Bytes × Value) → Except Flaw Unit
  | [] => .ok ()
  | (key, v) :: ps => do
    let k ← k.define [] key
    checkValue v
    checkPairs k ps

end

/-- What is known after a line. -/
def add (k : Known) : Entry → Except Flaw Known
  | .head key => k.openTable key
  | .item key => k.openItem key
  | .pair key v => do
    let k ← k.define k.current key
    checkValue v
    return k

end Known

/-! ## Settings -/

/-- Changes a value, or the last item if it is a list. -/
def inLast (f : Setting → Setting) : Setting → Setting
  | .list l => .list (l.dropLast ++ (l.getLast?.map f).toList)
  | v => f v

/-- Changes what is at a path; of lists on the way the last item counts. -/
def change : List Bytes → (Setting → Setting) → Setting → Setting
  | [], f, v => f v
  | n :: path, f, v =>
    inLast (fun v =>
      match v with
      | .map ms =>
        let old := ((ms.find? fun m => m.1 = n).map Prod.snd).getD (.map [])
        .map (Setting.setMember ms n (change path f old))
      | v => v) v

mutual

/-- The setting that a value is. -/
def setting : Value → Except Flaw Setting
  | .text s => .ok (.text s)
  | .bool b => .ok (.bool b)
  | .scalar k raw => scalarSetting k raw
  | .array vs => do return .list (← settings vs)
  | .table ps => tableSetting (.map []) ps

/-- The settings that values are. -/
def settings : List Value → Except Flaw (List Setting)
  | [] => .ok []
  | v :: vs => do
    let a ← setting v
    return a :: (← settings vs)

/-- A map with further pairs. -/
def tableSetting (m : Setting) : List (List Bytes × Value) → Except Flaw Setting
  | [] => .ok m
  | (k, v) :: ps => do
    let a ← setting v
    tableSetting (change k (fun _ => a) m) ps

end

/-- The settings after a line. -/
def addEntry (table : List Bytes) (m : Setting) : Entry → Except Flaw Setting
  | .head key => .ok (change key id m)
  | .item key => .ok (change key (fun v =>
      match v with
      | .list l => .list (l ++ [.map []])
      | _ => .list [.map []]) m)
  | .pair key v => do
    let a ← setting v
    return change (table ++ key) (fun _ => a) m

/-- Reads the lines of a text, of which there are at most `n`. -/
def readLines : Nat → Known → Setting → Bytes → Except Flaw Setting
  | 0, _, m, _ => .ok m
  | n + 1, k, m, s => do
    let (e, rest) ← line s
    let (k, m) ← match e with
      | none => pure (k, m)
      | some e =>
        let k ← k.add e
        pure (k, ← addEntry k.current m e)
    if rest.isEmpty then return m
    let (_, rest) ← lineEnd rest
    if rest.isEmpty then return m
    readLines n k m rest

/-- **The settings of a document**, with all names in lower case, or what is wrong with it. -/
def readSettings (s : Bytes) : Except Bytes Setting :=
  match readLines (s.length + 1) {} (.map []) s with
  | .ok m => .ok m.lowerNames
  | .error f => .error ("toml: " ++ f.message)

end Stencil.Toml
