import Stencil.Text.Base64
import Stencil.Text.Yaml

/-!
# Writing YAML

Maps and lists are written by indentation, with the indentation as a parameter; empty ones
are written in brackets. A text is written plain where a reader would take it for a text
again, between single quotes where only its characters are in the way, and as a block of
lines if it has several. What no other form can hold goes between double quotes.
-/

namespace Stencil.Yaml

open Bytes

/-! ## Texts -/

/-- Words that older readers take for truth values. -/
def isOldBool (s : Bytes) : Bool :=
  ["y", "Y", "yes", "Yes", "YES", "on", "On", "ON", "n", "N", "no", "No", "NO", "off", "Off",
    "OFF"].any fun w => s = Bytes.ofString w

/-- Whether a part between colons is at most two digits below sixty. -/
def isSixtieth (s : Bytes) : Bool :=
  match s with
  | [a] => isDigit a
  | [a, b] => isDigit a && a < ch '6' && isDigit b
  | _ => false

/-- Numbers in base sixty, which older readers understand. -/
def isBaseSixty (s : Bytes) : Bool :=
  let unsigned := match s with
    | c :: r => if c = ch '-' || c = ch '+' then r else s
    | [] => []
  match splitOn (ch ':') unsigned with
  | first :: more =>
    let isFirst := match first with
      | c :: r => isDigit c && r.all fun d => isDigit d || d = ch '_'
      | [] => false
    match more.reverse with
    | [] => false
    | last :: middle =>
      let (whole, fraction) := cut (ch '.') last
      isFirst && middle.all isSixtieth && isSixtieth whole
        && fraction.all fun d => isDigit d || d = ch '_'
  | [] => false

/-- Whether a reader takes a plain scalar for the text it is. -/
def readsAsText (s : Bytes) : Bool :=
  match plainValue true s with
  | .text _ => !isOldBool s && !isBaseSixty s
  | _ => false

/-- Whether a character can stand for itself. -/
def isPrintable (c : Nat) : Bool :=
  c = 0x0a || (0x20 ≤ c && c ≤ 0x7e) || (0xa0 ≤ c && c < 0xd800)
    || (0xe000 ≤ c && c < 0xfffe && c ≠ 0xfeff)

/-- Whether a character of a text, with the one before and the one behind it, would be taken
for the start of something else. -/
def isIndicator (before : Option Nat) (c : Nat) (behind : Option Nat) : Bool :=
  let blank (d : Option Nat) := d.all fun x => x = 0x20 || x = 0x09
  let is (chars : String) := chars.toList.any fun x => x.toNat = c
  if before.isNone then
    is "#,[]&*!|>%@" || c = 0x7b || c = 0x7d || c = 0x27 || c = 0x22 || c = 0x60
      || ((c = 0x3f || c = 0x3a || c = 0x2d) && blank behind)
  else
    (c = 0x3a && blank behind)
      || (c = 0x23 && before.any fun x => x = 0x20 || x = 0x09 || isBreakChar x)

/-- Whether some character of a text, given the one before them, is an indicator. -/
def hasIndicator : Option Nat → List Nat → Bool
  | _, [] => false
  | before, c :: cs => isIndicator before c cs.head? || hasIndicator (some c) cs

/-- Whether a blank of a text stands next to the end of a line, before or behind it as
said. -/
def hasBlankAt (beforeBreak : Bool) : List Nat → Bool
  | a :: b :: cs =>
    (if beforeBreak then a = 0x20 && isBreakChar b else isBreakChar a && b = 0x20)
      || hasBlankAt beforeBreak (b :: cs)
  | _ => false

/-- The forms that can hold a text. -/
structure Forms where
  /-- Without quotes. -/
  plain : Bool
  /-- Between single quotes. -/
  single : Bool
  /-- As a block of lines. -/
  block : Bool
  deriving DecidableEq, Repr

/-- Which forms can hold a text. -/
def formsOf (s : Bytes) : Forms :=
  let cs := (Utf8.runes s).map Rune.code
  let outer (p : Nat → Bool) := cs.head?.any p || cs.getLast?.any p
  let special := cs.any fun c => c ≠ 0x09 && !isPrintable c
  let tabs := cs.any (· = 0x09)
  let spaceBreak := hasBlankAt true cs
  let breakSpace := hasBlankAt false cs
  let marks := startsWith s "---" || startsWith s "..."
  let single := !(breakSpace || spaceBreak || tabs || special)
  { plain := single && !outer (fun c => c = 0x20 || isBreakChar c) && !cs.any isBreakChar && !marks
      && !hasIndicator none cs
    single := single
    block := !s.isEmpty && cs.getLast? ≠ some 0x20 && !spaceBreak && !special }

/-- Characters with an indentation in front of those that follow a line break. -/
def indented (indent : Nat) : Bool → List Rune → Bytes
  | _, [] => []
  | fresh, r :: rs =>
    if isBreakChar r.code then r.raw ++ indented indent true rs
    else (if fresh then List.replicate indent (ch ' ') else []) ++ r.raw ++ indented indent false rs

/-- A text between single quotes, at an indentation for further lines. -/
def singleQuoted (indent : Nat) (s : Bytes) : Bytes :=
  [squote] ++ indented indent false (Utf8.runes (replaceByte squote [squote, squote] s)) ++ [squote]

/-- A character between double quotes, as itself where it can be unless `all` characters
are escaped. -/
def doubleQuotedRune (all : Bool) (r : Rune) : Bytes :=
  let c := r.code
  if c = 0x22 || c = 0x5c then backslash :: r.raw
  else if isPrintable c && !isBreakChar c && !all then r.raw
  else if c = 0 then "\\0"
  else if c = 7 then "\\a"
  else if c = 8 then "\\b"
  else if c = 9 then "\\t"
  else if c = 10 then "\\n"
  else if c = 11 then "\\v"
  else if c = 12 then "\\f"
  else if c = 13 then "\\r"
  else if c = 27 then "\\e"
  else if c = 0x85 then "\\N"
  else if c = 0xa0 then "\\_"
  else if c = 0x2028 then "\\L"
  else if c = 0x2029 then "\\P"
  else if c < 0x100 then "\\x" ++ upper (hex 2 c)
  else if c < 0x10000 then "\\u" ++ upper (hex 4 c)
  else "\\U" ++ upper (hex 8 c)

/-- A text between double quotes. Behind a mark of the byte order everything is escaped. -/
def doubleQuoted (s : Bytes) : Bytes :=
  let all := startsWith s (Utf8.encode 0xfeff)
  [dquote] ++ (Utf8.runes s).flatMap (doubleQuotedRune all) ++ [dquote]

/-- A text as a block of lines at an indentation. A line break at its start ends the line of
its sign, and one at its end the block. -/
def literal (unit indent : Nat) (s : Bytes) : Bytes :=
  let rs := Utf8.runes s
  let startsLine := (rs.head?.map fun r => isBreakChar r.code).getD false
  let hint : Bytes := if startsLine || s.head? = some (ch ' ') then Bytes.ofNat unit else []
  let ends := (rs.reverse.takeWhile fun r => isBreakChar r.code).length
  let chomp : Bytes :=
    if ends = 0 then "-" else if ends = rs.length || 2 ≤ ends then "+" else []
  let body := (if startsLine then [] else [newline]) ++ indented indent true rs
  "|" ++ hint ++ chomp ++ (if s.getLast? = some newline then body.dropLast else body)

/-- A text of a given form, at an indentation for further lines. -/
def styled (unit indent : Nat) (plain : Bool) (s : Bytes) : Bytes :=
  let forms := formsOf s
  if s.any (· = newline) then if forms.block then literal unit indent s else doubleQuoted s
  else if !plain then doubleQuoted s
  else if forms.plain then s
  else if forms.single then singleQuoted indent s
  else doubleQuoted s

/-- Bytes in base 64, over several lines if there are many. -/
def binary (s : Bytes) : Bytes :=
  let code := Base64.encode s
  if code.length < 70 then code else (chunks code.length code).flatMap fun l => l ++ [newline]
where
  /-- Pieces of seventy bytes, with a bound on their number. -/
  chunks : Nat → Bytes → List Bytes
    | 0, _ => []
    | _, [] => []
    | n + 1, t => t.take 70 :: chunks n (t.drop 70)

/-- **A text**, at an indentation for further lines. -/
def writeText (unit indent : Nat) (s : Bytes) : Bytes :=
  if !Utf8.isValid s then "!!binary " ++ styled unit indent true (binary s)
  else styled unit indent (readsAsText s) s

/-! ## Values -/

/-- The next deeper indentation. -/
def deeper (unit indent : Nat) : Nat := unit * ((indent + unit) / unit)

/-- A value that is no map or list. -/
def writeScalar (unit indent : Nat) : Setting → Bytes
  | .null => "null"
  | .bool b => if b then "true" else "false"
  | .int n | .long n => Bytes.ofInt n
  | .float bits => Setting.floatText bits
  | .time s | .other _ s => s
  | .text s => writeText unit indent s
  | .list _ => "[]"
  | .map _ => [lbrace, rbrace]

/-- A new line with an indentation. -/
def freshLine (indent : Nat) : Bytes := newline :: List.replicate indent (ch ' ')

/-- Whether a value is written over several lines of its own. -/
def isBlock : Setting → Bool
  | .list (_ :: _) => true
  | .map (_ :: _) => true
  | _ => false

mutual

/-- A value from where it starts, with the indentation of its lines. -/
def writeValue (unit indent : Nat) : Setting → Bytes
  | .list (v :: vs) => join (freshLine indent) (writeItems unit indent (v :: vs))
  | .map (m :: ms) => join (freshLine indent) (writeMembers unit indent (m :: ms))
  | v => writeScalar unit indent v

/-- The items of a list at an indentation. -/
def writeItems (unit indent : Nat) : List Setting → List Bytes
  | [] => []
  | v :: vs => (Bytes.ofString "- " ++ writeValue unit (indent + 2) v) :: writeItems unit indent vs

/-- The members of a map at an indentation. -/
def writeMembers (unit indent : Nat) : List (Bytes × Setting) → List Bytes
  | [] => []
  | (k, v) :: ms =>
    let inner := deeper unit indent
    let start : Bytes := if isBlock v then freshLine inner else " "
    (writeText unit indent k ++ ":" ++ start ++ writeValue unit inner v)
      :: writeMembers unit indent ms

end

/-- **A value as a text**, with so many blanks for an indentation. -/
def write (unit : Nat) (v : Setting) : Bytes := writeValue unit 0 v ++ [newline]

end Stencil.Yaml
