import Stencil.Text.Utf8

/-!
# JSON

Values are kept as they are written: an object is a list of members in order, with
repetitions, and a number is its digits. So whoever reads a value decides what a
repeated member or a fraction means.

`Json.readValue?` reads one value from the front of a text and returns what follows
it; `Json.read?` demands that nothing but white space follows. Strings that hold
invalid UTF-8 or half of a surrogate pair are read with the replacement character in
place of the damage. Writing escapes what could end a string or a script element.
-/

namespace Stencil

open Bytes

/-- **A JSON value.** -/
inductive Json where
  /-- The null value. -/
  | null
  /-- A truth value. -/
  | bool (b : Bool)
  /-- A number, as written. -/
  | num (digits : Bytes)
  /-- A string. -/
  | str (s : Bytes)
  /-- An array. -/
  | arr (items : List Json)
  /-- An object, its members in order. -/
  | obj (members : List (Bytes × Json))
  deriving Inhabited

namespace Json

/-! ## Reading -/

/-- White space between tokens. -/
def isBlankByte (c : UInt8) : Bool := c = 0x20 || c = 0x09 || c = 0x0a || c = 0x0d

/-- The text behind leading white space. -/
def skipBlanks (s : Bytes) : Bytes := s.dropWhile isBlankByte

/-- Four hexadecimal digits and what follows. -/
def hex4? : Bytes → Option (Nat × Bytes)
  | a :: b :: c :: d :: r =>
    match hexValue? a, hexValue? b, hexValue? c, hexValue? d with
    | some w, some x, some y, some z => some (w * 4096 + x * 256 + y * 16 + z, r)
    | _, _, _, _ => none
  | _ => none

/-- The code point of a pair of surrogates. -/
def pairValue (hi lo : Nat) : Nat := 0x10000 + (hi - 0xd800) * 1024 + (lo - 0xdc00)

/-- The character of a `u` escape whose digits follow, and what follows it. A half
pair is the replacement character. -/
def unicodeEscape? (s : Bytes) : Option (Bytes × Bytes) :=
  match hex4? s with
  | none => none
  | some (v, r) =>
    if 0xd800 ≤ v ∧ v < 0xdc00 then
      match dropPrefix? "\\u" r with
      | some r' =>
        match hex4? r' with
        | some (w, r'') =>
          if 0xdc00 ≤ w ∧ w < 0xe000 then some (Utf8.encode (pairValue v w), r'')
          else some (Utf8.encode 0xfffd, r)
        | none => some (Utf8.encode 0xfffd, r)
      | none => some (Utf8.encode 0xfffd, r)
    else some (Utf8.encode v, r)

/-- The character of an escape: what follows the backslash, and what follows that. -/
def escape? : Bytes → Option (Bytes × Bytes)
  | [] => none
  | c :: r =>
    if c = dquote || c = backslash || c = slash then some ([c], r)
    else if c = ch 'b' then some ([0x08], r)
    else if c = ch 'f' then some ([0x0c], r)
    else if c = ch 'n' then some ([0x0a], r)
    else if c = ch 'r' then some ([0x0d], r)
    else if c = ch 't' then some ([0x09], r)
    else if c = ch 'u' then unicodeEscape? r
    else none

/-- A string from behind its opening quote, `fuel` bounding its length, with the text
read so far last first. -/
def stringTail? : Nat → Bytes → Bytes → Option (Bytes × Bytes)
  | 0, _, _ => none
  | _, _, [] => none
  | fuel + 1, acc, c :: r =>
    if c = dquote then some (acc.reverse, r)
    else if c = backslash then
      match escape? r with
      | some (t, r') => stringTail? fuel (t.reverse ++ acc) r'
      | none => none
    else if c < 0x20 then none
    else if c < 0x80 then stringTail? fuel (c :: acc) r
    else
      match Utf8.next? (c :: r) with
      | some u =>
        stringTail? fuel ((Utf8.encode u.code).reverse ++ acc) ((c :: r).drop u.raw.length)
      | none => none

/-- A string from its opening quote on. -/
def string? : Bytes → Option (Bytes × Bytes)
  | [] => none
  | c :: r => if c = dquote then stringTail? (r.length + 1) [] r else none

/-- The digits at the front of a text; there has to be one. -/
def digits? (s : Bytes) : Option (Bytes × Bytes) :=
  let (ds, r) := s.span isDigit
  if ds.isEmpty then none else some (ds, r)

/-- The fraction at the front of a text, if there is one. -/
def fraction? : Bytes → Option (Bytes × Bytes)
  | [] => some ([], [])
  | c :: r =>
    if c = ch '.' then (digits? r).map fun (ds, r') => (c :: ds, r') else some ([], c :: r)

/-- The exponent at the front of a text, if there is one. -/
def exponent? : Bytes → Option (Bytes × Bytes)
  | [] => some ([], [])
  | c :: r =>
    if c = ch 'e' || c = ch 'E' then
      match r with
      | d :: r' =>
        if d = ch '+' || d = ch '-' then (digits? r').map fun (ds, r'') => (c :: d :: ds, r'')
        else (digits? r).map fun (ds, r'') => (c :: ds, r'')
      | [] => none
    else some ([], c :: r)

/-- The number at the front of a text. A leading zero stands alone. -/
def number? (s : Bytes) : Option (Bytes × Bytes) := do
  let (sign, s) := match s with
    | c :: r => if c = ch '-' then ([c], r) else ([], s)
    | [] => ([], [])
  let (whole, r) ← match s with
    | c :: r => if c = ch '0' then some ([c], r) else digits? s
    | [] => none
  let (frac, r) ← fraction? r
  let (exp, r) ← exponent? r
  return (sign ++ whole ++ frac ++ exp, r)

mutual

/-- A value at the front of a text, nested at most `fuel` deep. -/
def value? : Nat → Bytes → Option (Json × Bytes)
  | 0, _ => none
  | fuel + 1, s =>
    match skipBlanks s with
    | [] => none
    | c :: r =>
      if c = dquote then (string? (c :: r)).map fun (t, r') => (.str t, r')
      else if c = lbrace then
        match skipBlanks r with
        | d :: r' =>
          if d = rbrace then some (.obj [], r')
          else (members? fuel r.length (d :: r')).map fun (ms, r'') => (.obj ms, r'')
        | [] => none
      else if c = ch '[' then
        match skipBlanks r with
        | d :: r' =>
          if d = ch ']' then some (.arr [], r')
          else (items? fuel r.length (d :: r')).map fun (vs, r'') => (.arr vs, r'')
        | [] => none
      else
        match dropPrefix? "null" (c :: r), dropPrefix? "true" (c :: r),
          dropPrefix? "false" (c :: r) with
        | some r', _, _ => some (.null, r')
        | _, some r', _ => some (.bool true, r')
        | _, _, some r' => some (.bool false, r')
        | none, none, none => (number? (c :: r)).map fun (n, r') => (.num n, r')
termination_by fuel => (fuel, 0)

/-- The items of an array up to its bracket, at most `n` further ones. -/
def items? : Nat → Nat → Bytes → Option (List Json × Bytes)
  | fuel, n, s =>
    match value? fuel s with
    | none => none
    | some (v, r) =>
      match skipBlanks r with
      | c :: r' =>
        if c = ch ']' then some ([v], r')
        else if c = ch ',' then
          match n with
          | 0 => none
          | n + 1 => (items? fuel n r').map fun (vs, r'') => (v :: vs, r'')
        else none
      | [] => none
termination_by fuel n => (fuel, n + 1)

/-- The members of an object up to its brace, at most `n` further ones. -/
def members? : Nat → Nat → Bytes → Option (List (Bytes × Json) × Bytes)
  | fuel, n, s =>
    match string? (skipBlanks s) with
    | none => none
    | some (k, r) =>
      match dropPrefix? ":" (skipBlanks r) with
      | none => none
      | some r =>
        match value? fuel r with
        | none => none
        | some (v, r) =>
          match skipBlanks r with
          | c :: r' =>
            if c = rbrace then some ([(k, v)], r')
            else if c = ch ',' then
              match n with
              | 0 => none
              | n + 1 => (members? fuel n r').map fun (ms, r'') => ((k, v) :: ms, r'')
            else none
          | [] => none
termination_by fuel n => (fuel, n + 1)

end

/-- The deepest nesting that is read. -/
def maxDepth : Nat := 10001

/-- **The value at the front of a text**, and what follows it. -/
def readValue? (s : Bytes) : Option (Json × Bytes) := value? maxDepth s

/-- The value of a text that holds nothing else. -/
def read? (s : Bytes) : Option Json :=
  match readValue? s with
  | some (v, r) => if (skipBlanks r).isEmpty then some v else none
  | none => none

/-! ## Taking values apart -/

/-- The form in which member names are compared: capitals, with the two letters
outside ASCII whose other case lies inside it. -/
def foldName (s : Bytes) : Bytes :=
  (Utf8.runes s).flatMap fun r =>
    if r.code = 0x17f then [ch 'S'] else if r.code = 0x212a then [ch 'K'] else upper r.raw

/-- The integer a number writes, when it is written without fraction and exponent and
fits in 64 bits. -/
def int64? : Json → Option Int
  | .num ds =>
    let (neg, body) := match ds with
      | c :: r => if c = ch '-' then (true, r) else (false, ds)
      | [] => (false, [])
    match toNat? body with
    | some n =>
      if neg then (if n ≤ Nat.pow 2 63 then some (-(n : Int)) else none)
      else if n < Nat.pow 2 63 then some n else none
    | none => none
  | _ => none

/-! ## Writing -/

/-- How a character is written inside a string. -/
def escapeRune (r : Rune) : Bytes :=
  if !r.valid then "\\ufffd"
  else if r.code = 0x22 || r.code = 0x5c then backslash :: r.raw
  else if r.code = 0x08 then "\\b"
  else if r.code = 0x0c then "\\f"
  else if r.code = 0x0a then "\\n"
  else if r.code = 0x0d then "\\r"
  else if r.code = 0x09 then "\\t"
  else if r.code < 0x20 || r.code = 0x3c || r.code = 0x3e || r.code = 0x26
      || r.code = 0x2028 || r.code = 0x2029 then "\\u" ++ hex 4 r.code
  else r.raw

/-- A string with its quotes. -/
def quoteString (s : Bytes) : Bytes :=
  dquote :: (Utf8.runes s).flatMap escapeRune ++ [dquote]

mutual

/-- **A value on one line.** -/
def render : Json → Bytes
  | .null => "null"
  | .bool b => if b then "true" else "false"
  | .num ds => ds
  | .str s => quoteString s
  | .arr items => "[" ++ join "," (renderItems items) ++ "]"
  | .obj members => [lbrace] ++ join "," (renderMembers members) ++ [rbrace]

/-- The items of an array, each on its own. -/
def renderItems : List Json → List Bytes
  | [] => []
  | v :: vs => render v :: renderItems vs

/-- The members of an object, each on its own. -/
def renderMembers : List (Bytes × Json) → List Bytes
  | [] => []
  | (k, v) :: ms => (quoteString k ++ ":" ++ render v) :: renderMembers ms

end

/-- A line break followed by indentation. -/
def lineBreak (depth : Nat) : Bytes := newline :: List.replicate (2 * depth) 0x20

mutual

/-- **A value laid out over lines**, two blanks per level. -/
def pretty (depth : Nat) : Json → Bytes
  | .null => "null"
  | .bool b => if b then "true" else "false"
  | .num ds => ds
  | .str s => quoteString s
  | .arr [] => "[]"
  | .arr (v :: vs) =>
    "[" ++ lineBreak (depth + 1)
      ++ join ("," ++ lineBreak (depth + 1)) (prettyItems (depth + 1) (v :: vs))
      ++ lineBreak depth ++ "]"
  | .obj [] => [lbrace, rbrace]
  | .obj (m :: ms) =>
    [lbrace] ++ lineBreak (depth + 1)
      ++ join ("," ++ lineBreak (depth + 1)) (prettyMembers (depth + 1) (m :: ms))
      ++ lineBreak depth ++ [rbrace]

/-- The items of an array, laid out. -/
def prettyItems (depth : Nat) : List Json → List Bytes
  | [] => []
  | v :: vs => pretty depth v :: prettyItems depth vs

/-- The members of an object, laid out. -/
def prettyMembers (depth : Nat) : List (Bytes × Json) → List Bytes
  | [] => []
  | (k, v) :: ms => (quoteString k ++ ": " ++ pretty depth v) :: prettyMembers depth ms

end

/-- The value of a number. -/
def ofNat (n : Nat) : Json := .num (Bytes.ofNat n)

/-- The value of an integer. -/
def ofInt (n : Int) : Json := .num (Bytes.ofInt n)

end Json

end Stencil
