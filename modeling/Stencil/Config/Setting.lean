import Stencil.Text.Decimal
import Stencil.Text.Json
import Stencil.Text.Numeral
import Stencil.Text.Quoted

/-!
# Settings

Configuration comes from files, from the environment and from the command line. What all of
them give is a tree of values: maps with names in lower case, lists, and scalars that know
whether they were written as a number, a truth value or a text.

A later stage asks for a text, a number or a list of texts, and takes what can be
understood as one.
-/

namespace Stencil

open Bytes

/-- **A value of a configuration.** -/
inductive Setting where
  /-- Nothing. -/
  | null
  /-- A truth value. -/
  | bool (b : Bool)
  /-- An integer of 64 bits, with or without sign. -/
  | int (n : Int)
  /-- An integer of a format where all integers have 64 bits and a sign. -/
  | long (n : Int)
  /-- A fraction, by its bits. -/
  | float (bits : UInt64)
  /-- A point in time, as it is shown; nobody asks for one. -/
  | time (s : Bytes)
  /-- Any other value nobody asks for: its type, and how it is shown. -/
  | other (type shown : Bytes)
  /-- A text. -/
  | text (s : Bytes)
  /-- A list. -/
  | list (items : List Setting)
  /-- A map. -/
  | map (members : List (Bytes × Setting))
  deriving Inhabited

namespace Setting

/-- Whether a value is a map. -/
def isMap : Setting → Bool
  | .map _ => true
  | _ => false

/-- Whether a value is nothing. -/
def isNull : Setting → Bool
  | .null => true
  | _ => false

/-- The value of a member. -/
def member? (name : Bytes) : Setting → Option Setting
  | .map ms => (ms.find? fun m => m.1 = name).map Prod.snd
  | _ => none

/-- Members with one set. -/
def setMember (ms : List (Bytes × Setting)) (name : Bytes) (v : Setting) : List (Bytes × Setting) :=
  if ms.any fun m => m.1 = name then ms.map fun m => if m.1 = name then (name, v) else m
  else ms ++ [(name, v)]

mutual

/-- The value with all names in lower case. -/
def lowerNames : Setting → Setting
  | .map ms => .map (lowerMembers ms)
  | .list l => .list (lowerItems l)
  | v => v

/-- Members with all names in lower case. -/
def lowerMembers : List (Bytes × Setting) → List (Bytes × Setting)
  | [] => []
  | (k, v) :: ms => (lowerText k, lowerNames v) :: lowerMembers ms

/-- Items with all names in lower case. -/
def lowerItems : List Setting → List Setting
  | [] => []
  | v :: l => lowerNames v :: lowerItems l

end

mutual

/-- The setting that a JSON value is; all its numbers are fractions. -/
def ofJson : Json → Setting
  | .null => .null
  | .bool b => .bool b
  | .num digits => .float (Decimal.toBits digits)
  | .str s => .text s
  | .arr items => .list (ofItems items)
  | .obj ms => .map (ofMembers ms)

/-- The settings that items of a JSON array are. -/
def ofItems : List Json → List Setting
  | [] => []
  | v :: vs => ofJson v :: ofItems vs

/-- The members that those of a JSON object are. -/
def ofMembers : List (Bytes × Json) → List (Bytes × Setting)
  | [] => []
  | (k, v) :: ms => (k, ofJson v) :: ofMembers ms

end

/-! ## Paths -/

/-- The value at a path of names; nothing counts as missing only for those who ask. -/
def at? : List Bytes → Setting → Option Setting
  | [], v => some v
  | name :: path, v =>
    match v.member? name with
    | none => none
    | some w => at? path w

/-- The value with another one at a path; what stands in the way gives way. -/
def put (v : Setting) : List Bytes → Setting → Setting
  | [], w => w
  | name :: path, w =>
    let ms := match v with
      | .map ms => ms
      | _ => []
    let inner := ((ms.find? fun m => m.1 = name).map Prod.snd).getD (.map [])
    .map (setMember ms name (put inner path w))

/-- Maps with those of another value merged in, with a bound on the depth. A map stays a
map. -/
def merge : Nat → Setting → Setting → Setting
  | 0, _, w => w
  | n + 1, .map ms, .map new =>
    .map (new.foldl (fun ms (m : Bytes × Setting) =>
      match ms.find? fun (e : Bytes × Setting) => e.1 = m.1 with
      | none => ms ++ [m]
      | some (_, old) =>
        if old.isMap && !m.2.isMap then ms else setMember ms m.1 (merge n old m.2)) ms)
  | _ + 1, _, w => w

/-! ## Understanding -/

/-- The integer part of a fraction. What is too large for an integer of 64 bits, and what is no
number, becomes the least of them. -/
def truncate (bits : UInt64) : Int :=
  let x := Float.ofBits bits
  if x < 9223372036854775808.0 && -9223372036854775808.0 ≤ x then x.toInt64.toInt
  else -9223372036854775808

/-- An integer of 64 bits with or without sign as one with sign. -/
def wrap (n : Int) : Int := if n < Nat.pow 2 63 then n else n - Nat.pow 2 64

/-- The integer that a text writes, if it fits in 64 bits. -/
def integer? (s : Bytes) : Option Int := (Numeral.integer s).toOption

/-- What is said about a text that writes no integer. -/
def integerComplaint (s : Bytes) : Bytes :=
  let flaw := match Numeral.integer s with
    | .error f => f
    | .ok _ => .malformed
  "strconv.ParseInt: parsing " ++ Quoted.quote s ++ ": " ++ flaw.message

/-- A fraction as text, without an exponent. -/
def floatText (bits : UInt64) : Bytes :=
  match Decimal.shortest? bits with
  | some d => Decimal.sign d ++ Decimal.fixed d
  | none =>
    if (bits &&& 0xfffffffffffff) ≠ 0 then "NaN"
    else if bits >>> 63 = 1 then "-Inf"
    else "+Inf"

/-- **The text that a value can be understood as**; nothing is the text that was there. -/
def asText? (old : Bytes) : Setting → Option Bytes
  | .null => some old
  | .bool b => some (if b then "1" else "0")
  | .int n | .long n => some (Bytes.ofInt n)
  | .float bits => some (floatText bits)
  | .text s => some s
  | _ => none

/-- **The integer that a value can be understood as.** -/
def asInt? (old : Int) : Setting → Option Int
  | .null => some old
  | .bool b => some (if b then 1 else 0)
  | .int n | .long n => some (wrap n)
  | .float bits => some (truncate bits)
  | .text s => if s.isEmpty then some 0 else integer? s
  | _ => none

/-- **The texts that a value can be understood as**: a text is cut at its commas, and any
other single value is a list of one. -/
def asTexts? (old : List Bytes) : Setting → Option (List Bytes)
  | .null => some old
  | .text s => some (if s.isEmpty then [] else splitOn (ch ',') s)
  | .list l => l.mapM (asText? [])
  | .map [] => some []
  | v => (asText? [] v).map fun t => [t]

/-! ## What cannot be understood -/

mutual

/-- A value as it is shown in a complaint. -/
def shown : Setting → Bytes
  | .null => "<nil>"
  | .bool b => if b then "true" else "false"
  | .int n | .long n => Bytes.ofInt n
  | .float bits => floatText bits
  | .time s => s
  | .other _ s => s
  | .text s => s
  | .list l => "[" ++ join " " (shownItems l) ++ "]"
  | .map ms => "map[" ++ join " " (shownMembers ms) ++ "]"

/-- Items as they are shown in a complaint. -/
def shownItems : List Setting → List Bytes
  | [] => []
  | v :: vs => shown v :: shownItems vs

/-- Members as they are shown in a complaint. -/
def shownMembers : List (Bytes × Setting) → List Bytes
  | [] => []
  | (k, v) :: ms => (k ++ ":" ++ shown v) :: shownMembers ms

end

/-- The type of a value in a complaint. -/
def typeName : Setting → Bytes
  | .null => "<nil>"
  | .bool _ => "bool"
  | .int n => if n < Nat.pow 2 63 then "int" else "uint64"
  | .long _ => "int64"
  | .float _ => "float64"
  | .time _ => "time.Time"
  | .other t _ => t
  | .text _ => "string"
  | .list _ => "[]interface \x7b\x7d"
  | .map _ => "map[string]interface \x7b\x7d"

/-- The kind of a value in a complaint. -/
def kindName : Setting → Bytes
  | .list _ => "slice"
  | .map _ => "map"
  | .time _ | .other .. => "struct"
  | v => v.typeName

/-- What is said about a value of a setting that is not of the type it should be. -/
def mismatch (name type : Bytes) (v : Setting) : Bytes :=
  "'" ++ name ++ "' expected type '" ++ type ++ "', got unconvertible type '" ++ v.typeName
    ++ "', value: '" ++ v.shown ++ "'"

end Setting

end Stencil
