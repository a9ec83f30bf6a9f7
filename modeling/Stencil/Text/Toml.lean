import Stencil.Text.Quoted

/-!
# TOML

A TOML document is a sequence of lines. A line gives a value to a key, opens a table, or
opens one more table of an array of tables. Keys are paths of names. Arrays can go over
several lines, inline tables cannot.

Here a document is read as far as its form goes, one `Entry` after another, because a
document is wrong at the first entry that is wrong in any way. What numbers and dates mean,
and whether keys and tables fit together, is told by `Toml.readSettings`.
-/

namespace Stencil.Toml

open Bytes

/-- Why a text is no document. -/
inductive Flaw where
  /-- Something else where a line should end. -/
  | noNewline (c : UInt8)
  /-- A carriage return at the end of the text. -/
  | lastReturn
  /-- A carriage return without a line feed. -/
  | loneReturn
  /-- Something else in the place of a character. -/
  | expected (c : UInt8)
  /-- The end in the place of a character. -/
  | expectedAtEnd (c : UInt8)
  /-- The end behind a key. -/
  | noEquals
  /-- The end in the place of a value. -/
  | noValue
  /-- The end in the place of a key. -/
  | noKey
  /-- A character that no key starts with. -/
  | keyStart (c : UInt8)
  /-- The start of a word that does not go on. -/
  | word (w : Bytes)
  /-- A letter in a number. -/
  | inNumber (c : UInt8)
  /-- No number. -/
  | incompleteNumber
  /-- A letter that stands for nothing behind a backslash. -/
  | escape (c : UInt8)
  /-- Too few digits of a character. -/
  | shortEscape (want have_ : Nat)
  /-- A wrong digit of a character. -/
  | hexDigit
  /-- Digits of no character. -/
  | codePoint
  /-- A byte that a text cannot have, by its value. -/
  | badByte (c : UInt8)
  /-- Anything else that has one wording. -/
  | plain (message : String)
  /-- A fault whose wording tells what is at fault. -/
  | clash (message : Bytes)

/-- A byte as a character number, with the character if it can be seen. -/
def codeOf (c : UInt8) : Bytes :=
  let shown := 0x20 ≤ c.toNat && c.toNat < 0x7f || 0xa1 ≤ c.toNat && c ≠ 0xad
  "U+" ++ upper (hex 4 c.toNat) ++ (if shown then " '" ++ Utf8.encode c.toNat ++ "'" else [])

/-- The wording of a flaw. -/
def Flaw.message : Flaw → Bytes
  | .noNewline c => "expected newline but got " ++ codeOf c
  | .lastReturn => "windows new line expected"
  | .loneReturn => "windows new line should be \\r\\n"
  | .expected c => "expected character " ++ [c]
  | .expectedAtEnd c => "expected character " ++ [c] ++ " but the document ended here"
  | .noEquals => "expected = after a key, but the document ends there"
  | .noValue => "expected value, not eof"
  | .noKey => "expected key but found none"
  | .keyStart c => "invalid character at start of key: " ++ Utf8.encode c.toNat
  | .word w => "expected '" ++ w ++ "'"
  | .inNumber c => "unexpected character '" ++ [c] ++ "' while scanning for a number"
  | .incompleteNumber => "incomplete number"
  | .escape c => "invalid escaped character " ++ codeOf c
  | .shortEscape want have_ =>
    "unicode point needs " ++ Bytes.ofNat want ++ " character, not " ++ Bytes.ofNat have_
  | .hexDigit => "non-hex character"
  | .codePoint => "escape sequence is invalid Unicode code point"
  | .badByte c => "invalid character " ++ codeOf c
  | .plain m => m
  | .clash m => m

/-- What kind of value a text without quotes is. -/
inductive Kind where
  /-- An integer. -/
  | integer
  /-- A fraction. -/
  | fraction
  /-- A date. -/
  | date
  /-- A time of day. -/
  | clock
  /-- A date with a time of day. -/
  | dateClock
  /-- A point in time. -/
  | instant
  deriving DecidableEq

/-- A value as it is written. -/
inductive Value where
  /-- A text. -/
  | text (s : Bytes)
  /-- A truth value. -/
  | bool (b : Bool)
  /-- A number or a date, not looked into. -/
  | scalar (kind : Kind) (raw : Bytes)
  /-- An array. -/
  | array (items : List Value)
  /-- A table on one line. -/
  | table (pairs : List (List Bytes × Value))
  deriving Inhabited

/-- One line of a document. -/
inductive Entry where
  /-- A key with its value. -/
  | pair (key : List Bytes) (value : Value)
  /-- The head of a table. -/
  | head (key : List Bytes)
  /-- The head of one more table of an array. -/
  | item (key : List Bytes)

/-- A reader takes something from the start of a text. -/
abbrev Reader (α : Type) := Bytes → Except Flaw (α × Bytes)

/-! ## Characters -/

/-- The text behind blanks. -/
def skipBlanks (s : Bytes) : Bytes := s.dropWhile fun c => c = 0x20 || c = 0x09

/-- Whether a byte of ASCII can stand in a text. -/
def isPlain (c : UInt8) : Bool := c = 0x09 || c = 0x0a || c = 0x0d || (0x20 ≤ c && c ≠ 0x7f)

/-- The length of the character at the start, none if it cannot stand in a text. -/
def plainLength? (s : Bytes) : Option Nat :=
  match Utf8.next? s with
  | some r => if r.valid && (r.code ≥ 0x80 || s.head?.any isPlain) then some r.raw.length else none
  | none => none

/-- Whether all characters of a text can stand in one. -/
def allPlain (s : Bytes) : Bool :=
  (Utf8.runes s).all fun r => r.valid && (r.code ≥ 0x80 || r.raw.head?.any isPlain)

/-- A character that has to come next. -/
def expect (c : UInt8) : Reader Unit
  | [] => .error (.expectedAtEnd c)
  | d :: s => if d = c then .ok ((), s) else .error (.expected c)

/-- The end of a line. -/
def lineEnd : Reader Unit
  | [] => .ok ((), [])
  | c :: s =>
    if c = newline then .ok ((), s)
    else if c = 0x0d then
      match s with
      | [] => .error .lastReturn
      | d :: r => if d = newline then .ok ((), r) else .error .loneReturn
    else .error (.noNewline c)

/-- A comment, up to the end of its line. The steps are bounded by the length. -/
def comment : Nat → Bytes → Except Flaw Bytes
  | 0, s => .ok s
  | n + 1, s =>
    match s with
    | [] => .ok []
    | c :: r =>
      if c = newline then .ok s
      else if c = 0x0d then
        if r.head? = some newline then .ok r else .error (.plain "invalid character in comment")
      else
        match plainLength? s with
        | some k => comment n (s.drop k)
        | none => .error (.plain "invalid character in comment")

/-- Blanks, comments and ends of lines, as they can stand in an array. -/
def skipLines : Nat → Bytes → Except Flaw Bytes
  | 0, s => .ok s
  | n + 1, s =>
    match skipBlanks s with
    | [] => .ok []
    | c :: r =>
      if c = ch '#' then do skipLines n (← comment r.length r)
      else if c = newline || c = 0x0d then do
        let (_, r) ← lineEnd (c :: r)
        skipLines n r
      else .ok (c :: r)

/-! ## Texts -/

/-- What stands between single quotes. -/
def literalBody : Nat → Bytes → Bytes → Except Flaw (Bytes × Bytes)
  | 0, _, _ => .error (.plain "unterminated literal string")
  | n + 1, out, s =>
    match s with
    | [] => .error (.plain "unterminated literal string")
    | c :: r =>
      if c = squote then .ok (out, r)
      else if c = newline || c = 0x0d then .error (.plain "literal strings cannot have new lines")
      else
        match plainLength? s with
        | some k => literalBody n (out ++ s.take k) (s.drop k)
        | none => .error (.plain "invalid character")

/-- A text of several lines up to three quotes, which further quotes may precede; with the
text that follows. -/
def closing (q : UInt8) (out : Bytes) (s : Bytes) (message : String) :
    Option (Except Flaw (Bytes × Bytes)) :=
  match dropPrefix? [q, q, q] s with
  | none => none
  | some r =>
    let extra := r.takeWhile (· = q)
    if 2 < extra.length then some (.error (.plain message))
    else some (.ok (out ++ extra, r.drop extra.length))

/-- What stands between three single quotes. -/
def literalLines : Nat → Bytes → Bytes → Except Flaw (Bytes × Bytes)
  | 0, _, _ => .error (.plain "multiline literal string not terminated by '''")
  | n + 1, out, s =>
    match closing squote out s "''' not allowed in multiline literal string" with
    | some found => found
    | none =>
      match s with
      | [] => .error (.plain "multiline literal string not terminated by '''")
      | c :: r =>
        if c = 0x0d then
          if r.head? = some newline then literalLines n (out ++ [c, newline]) (r.drop 1)
          else .error (.plain "need a \\n after \\r")
        else
          match plainLength? s with
          | some k => literalLines n (out ++ s.take k) (s.drop k)
          | none => .error (.plain "invalid character")

/-- What stands between double quotes, escapes included. -/
def basicBody : Bytes → Bytes → Except Flaw (Bytes × Bytes)
  | _, [] => .error (.plain "basic string not terminated by \"")
  | out, c :: r =>
    if c = dquote then .ok (out, r)
    else if c = newline || c = 0x0d then .error (.plain "basic strings cannot have new lines")
    else if c = backslash then
      match r with
      | [] => .error (.plain "need a character after \\")
      | d :: r => basicBody (out ++ [c, d]) r
    else basicBody (out ++ [c]) r

/-- What stands between three double quotes, escapes included. -/
def basicLines : Nat → Bytes → Bytes → Except Flaw (Bytes × Bytes)
  | 0, _, _ => .error (.plain "multiline basic string not terminated by \"\"\"")
  | n + 1, out, s =>
    match closing dquote out s "\"\"\" not allowed in multiline basic string" with
    | some found => found
    | none =>
      match s with
      | [] => .error (.plain "multiline basic string not terminated by \"\"\"")
      | c :: r =>
        if c = backslash then
          match r with
          | [] => .error (.plain "need a character after \\")
          | d :: r => basicLines n (out ++ [c, d]) r
        else if c = 0x0d then
          if r.head? = some newline then basicLines n (out ++ [c, newline]) (r.drop 1)
          else .error (.plain "need a \\n after \\r")
        else basicLines n (out ++ [c]) r

/-- A character by its number in hexadecimal digits. -/
def codeEscape (width : Nat) (s : Bytes) : Except Flaw (Bytes × Bytes) :=
  let ds := s.take width
  if ds.length < width then .error (.shortEscape width ds.length)
  else
    match ds.mapM hexValue? with
    | none => .error .hexDigit
    | some vs =>
      let code := vs.foldl (fun v d => v * 16 + d) 0
      if Quoted.isCodePoint code then .ok (Utf8.encode code, s.drop width) else .error .codePoint

/-- The character behind a backslash. -/
def escaped (s : Bytes) : Except Flaw (Bytes × Bytes) :=
  match s with
  | [] => .ok ([], [])
  | c :: r =>
    let letters : List (UInt8 × UInt8) := [(dquote, dquote), (backslash, backslash), (ch 'b', 0x08),
      (ch 'f', 0x0c), (ch 'n', 0x0a), (ch 'r', 0x0d), (ch 't', 0x09), (ch 'e', 0x1b)]
    match letters.find? fun e => e.1 = c with
    | some (_, b) => .ok ([b], r)
    | none =>
      if c = ch 'u' then codeEscape 4 r
      else if c = ch 'U' then codeEscape 8 r
      else .error (.escape c)

/-- Whether a backslash is the last of its line. -/
def endsLine (s : Bytes) : Bool :=
  match skipBlanks s with
  | c :: r => c = newline || (c = 0x0d && r.head? = some newline)
  | [] => false

/-- A text with its escapes resolved. Over several lines, a backslash at the end of a line
takes the white space that follows with it. -/
def unescape (lines : Bool) : Nat → Bytes → Bytes → Except Flaw Bytes
  | 0, out, _ => .ok out
  | n + 1, out, s =>
    match s with
    | [] => .ok out
    | c :: r =>
      if c = backslash then
        if lines && endsLine r then
          unescape lines n out
            (r.dropWhile fun c => c = newline || c = 0x0d || c = 0x20 || c = 0x09)
        else do
          let (b, r) ← escaped r
          unescape lines n (out ++ b) r
      else
        match plainLength? s with
        | some k => unescape lines n (out ++ s.take k) (s.drop k)
        | none => .error (.badByte c)

/-- The text that is meant by what stands between double quotes. -/
def meant (lines : Bool) (s : Bytes) : Except Flaw Bytes :=
  if s.any (· = backslash) then unescape lines s.length [] s
  else if allPlain s then .ok s
  else .error (.plain "invalid UTF-8")

/-- The text without a line end at its start. -/
def dropLineEnd (s : Bytes) : Bytes :=
  match s with
  | c :: r =>
    if c = newline then r
    else if c = 0x0d && r.head? = some newline then r.drop 1
    else s
  | [] => []

/-- A text in double quotes, behind the first of them. -/
def basicText : Reader Bytes := fun s => do
  let (raw, r) ← basicBody [] s
  return (← meant false raw, r)

/-- A text in quotes of any kind, also over several lines. -/
def text (q : UInt8) : Reader Bytes := fun s => do
  match dropPrefix? [q, q, q] s with
  | some r =>
    let (raw, rest) ← if q = dquote then basicLines (r.length + 1) [] r
      else literalLines (r.length + 1) [] r
    let body := dropLineEnd raw
    return (← if q = dquote then meant true body else .ok body, rest)
  | none => if q = dquote then basicText (s.drop 1) else literalBody s.length [] (s.drop 1)

/-! ## Keys -/

/-- Whether a character can stand in a name without quotes. -/
def isNameByte (c : UInt8) : Bool := isIdentChar c || c = ch '-'

/-- One name of a key. -/
def name : Reader Bytes := fun s =>
  match s with
  | [] => .error .noKey
  | c :: r =>
    if c = squote then literalBody r.length [] r
    else if c = dquote then basicText r
    else if isNameByte c then .ok (s.takeWhile isNameByte, s.dropWhile isNameByte)
    else .error (.keyStart c)

/-- The further names of a key, each behind a dot. -/
def furtherNames : Nat → Reader (List Bytes)
  | 0, s => .ok ([], s)
  | n + 1, s =>
    match skipBlanks s with
    | c :: r =>
      if c = ch '.' then do
        let (a, r) ← name (skipBlanks r)
        let (as_, r) ← furtherNames n r
        return (a :: as_, r)
      else .ok ([], c :: r)
    | [] => .ok ([], [])

/-- **A key**: names with dots between them. -/
def key : Reader (List Bytes) := fun s => do
  let (a, r) ← name s
  let (as_, r) ← furtherNames r.length r
  return (a :: as_, r)

/-! ## Values -/

/-- What a number without a base goes over, and whether it is a fraction. -/
def decimal : Nat → Bool → Bytes → Except Flaw (Nat × Bool)
  | i, isFraction, s =>
    match s with
    | [] => .ok (i, isFraction)
    | c :: r =>
      if isDigit c || c = ch '+' || c = ch '-' || c = ch '_' then decimal (i + 1) isFraction r
      else if c = ch '.' || lowerByte c = ch 'e' then decimal (i + 1) true r
      else if c = ch 'i' then
        if startsWith s "inf" then .ok (i + 3, true) else .error (.inNumber c)
      else if c = ch 'n' then
        if startsWith s "nan" then .ok (i + 3, true) else .error (.inNumber c)
      else .ok (i, isFraction)

/-- A number. -/
def number : Reader Value := fun s =>
  let based (digit : UInt8 → Bool) : Except Flaw (Value × Bytes) :=
    let n := 2 + ((s.drop 2).takeWhile digit).length
    .ok (.scalar .integer (s.take n), s.drop n)
  let plain : Except Flaw (Value × Bytes) := do
    let (n, isFraction) ← decimal 0 false s
    if n = 0 then .error .incompleteNumber
    else return (.scalar (if isFraction then .fraction else .integer) (s.take n), s.drop n)
  match s with
  | a :: b :: _ :: _ =>
    if a = ch '0' && b ≠ ch '.' && lowerByte b ≠ ch 'e' then
      if b = ch 'x' then based fun c => (hexValue? c).isSome || c = ch '_'
      else if b = ch 'o' then based fun c => (ch '0' ≤ c && c ≤ ch '7') || c = ch '_'
      else if b = ch 'b' then based fun c => c = ch '0' || c = ch '1' || c = ch '_'
      else .ok (.scalar .integer [a], s.drop 1)
    else plain
  | _ => plain

/-- What a date goes over, with what it has: a date, a time of day, an offset. -/
def dateLength : Nat → Nat → Bool → Bool × Bool × Bool → Bytes → Nat × Bool × Bool × Bool
  | 0, i, _, found, _ => (i, found)
  | n + 1, i, spaced, (day, clock, zone), s =>
    match s with
    | [] => (i, day, clock, zone)
    | c :: r =>
      if isDigit c then dateLength n (i + 1) spaced (day, clock, zone) r
      else if c = ch '-' then dateLength n (i + 1) spaced (true, clock, zone || 8 ≤ i) r
      else if lowerByte c = ch 't' || c = ch ':' || c = ch '.' then
        dateLength n (i + 1) spaced (day, true, zone) r
      else if c = ch '+' || lowerByte c = ch 'z' then
        dateLength n (i + 1) spaced (day, clock, true) r
      else if c = 0x20 && !spaced && r.head?.any isDigit then
        if r.length < 2 then (i + 2, day, true, zone)
        else dateLength n (i + 3) true (day, true, zone) (r.drop 2)
      else (i, day, clock, zone)

/-- A date, a time of day, or both. -/
def dateValue : Reader Value := fun s =>
  let (n, day, clock, zone) := dateLength s.length 0 false (false, false, false) s
  let kind : Kind :=
    if !clock then .date else if !day then .clock else if zone then .instant else .dateClock
  .ok (.scalar kind (s.take n), s.drop n)

/-- Whether a text starts like a date: with four digits and a dash, or two and a colon. -/
def looksLikeDate (s : Bytes) : Bool :=
  2 < s.length && (match (s.takeWhile isDigit).length with
    | 2 => s[2]? = some (ch ':')
    | 4 => s[4]? = some (ch '-')
    | _ => false)

/-- A value that is no text, no truth value and holds no others. -/
def scalar : Reader Value := fun s =>
  let word (w : Bytes) : Except Flaw (Value × Bytes) :=
    if startsWith s w then .ok (.scalar .fraction w, s.drop w.length) else .error (.word w)
  match s with
  | c :: _ =>
    if c = ch 'i' then word "inf"
    else if c = ch 'n' then word "nan"
    else if looksLikeDate s then dateValue s
    else number s
  | [] => .error .noValue

mutual

/-- A value, with a bound on how deep values are nested and how long they are. -/
def value : Nat → Reader Value
  | 0, _ => .error .noValue
  | n + 1, s =>
    match s with
    | [] => .error .noValue
    | c :: r =>
      if c = dquote || c = squote then do
        let (t, r) ← text c s
        return (.text t, r)
      else if c = ch 't' then
        if startsWith s "true" then .ok (.bool true, s.drop 4) else .error (.word "true")
      else if c = ch 'f' then
        if startsWith s "false" then .ok (.bool false, s.drop 5) else .error (.word "false")
      else if c = ch '[' then do
        let (vs, r) ← items n true r
        return (.array vs, r)
      else if c = lbrace then do
        let (ps, r) ← pairs n true r
        return (.table ps, r)
      else scalar s

/-- The items of an array, behind the bracket or an item. -/
def items : Nat → Bool → Reader (List Value)
  | 0, _, _ => .error (.plain "array is incomplete")
  | n + 1, first, s =>
    if s.isEmpty then .error (.expectedAtEnd (ch ']'))
    else do
      match ← skipLines s.length s with
      | [] => .error (.plain "array is incomplete")
      | c :: r =>
        if c = ch ']' then return ([], r)
        let s ← if c = ch ',' then
            if first then .error (.plain "array cannot start with comma") else skipLines r.length r
          else if !first then .error (.plain "array elements must be separated by commas")
          else pure (c :: r)
        if s.head? = some (ch ']') then return ([], s.drop 1)
        let (v, r) ← value n s
        let r ← skipLines r.length r
        let (vs, r) ← items n false r
        return (v :: vs, r)

/-- The pairs of a table on one line, behind the brace or a pair. -/
def pairs : Nat → Bool → Reader (List (List Bytes × Value))
  | 0, _, _ => .error (.plain "inline table is incomplete")
  | n + 1, first, s =>
    if s.isEmpty then .error (.expectedAtEnd rbrace)
    else
      match skipBlanks s with
      | [] => .error (.plain "inline table is incomplete")
      | c :: r => do
        if c = rbrace then return ([], r)
        let s ← if first then pure (c :: r) else do
          let (_, r) ← expect (ch ',') (c :: r)
          pure (skipBlanks r)
        let (p, r) ← pair n s
        let (ps, r) ← pairs n false r
        return (p :: ps, r)

/-- A key with its value. -/
def pair : Nat → Reader (List Bytes × Value)
  | 0, _ => .error .noKey
  | n + 1, s => do
    let (k, r) ← key s
    match skipBlanks r with
    | [] => .error .noEquals
    | r =>
      let (_, r) ← expect (ch '=') r
      let (v, r) ← value n (skipBlanks r)
      return ((k, v), r)

end

/-! ## Lines -/

/-- What stands on a line, before comments. -/
def entry (s : Bytes) : Except Flaw (Entry × Bytes) := do
  match dropPrefix? "[[" s, dropPrefix? "[" s with
  | some r, _ =>
    let (k, r) ← key (skipBlanks r)
    let (_, r) ← expect (ch ']') (skipBlanks r)
    let (_, r) ← expect (ch ']') r
    return (.item k, r)
  | none, some r =>
    let (k, r) ← key (skipBlanks r)
    let (_, r) ← expect (ch ']') (skipBlanks r)
    return (.head k, r)
  | none, none =>
    let ((k, v), r) ← pair (3 * s.length + 3) s
    return (.pair k v, r)

/-- **The line at the start of a text**, if it has more than blanks and a comment, and the
text from its end on. -/
def line (s : Bytes) : Except Flaw (Option Entry × Bytes) := do
  match skipBlanks s with
  | [] => return (none, [])
  | c :: r =>
    if c = ch '#' then return (none, ← comment r.length r)
    if c = newline || c = 0x0d then return (none, c :: r)
    let (e, r) ← entry (c :: r)
    match skipBlanks r with
    | d :: t => return (some e, ← if d = ch '#' then comment t.length t else pure (d :: t))
    | [] => return (some e, [])

end Stencil.Toml
