import Stencil.Host.BuildLine
import Stencil.Host.LineMark

/-!
# From text to tokens

`scan` cuts a file into tokens. White space and comments are dropped; the end of a line
is a semicolon where the line could end a statement there. A text that is no token is
reported, and scanning goes on behind it, so every file has tokens up to its end.

Comments matter in two ways: they can rename positions, and before the package clause they
can set the version of the language.
-/

namespace Stencil.Host.Scanner

open Bytes

/-- A character as messages show it: its number and, if it is visible, itself. -/
def showRune (c : Nat) : Bytes :=
  let digits := if c < 0x10000 then hex 4 c else if c < 0x100000 then hex 5 c else hex 6 c
  "U+" ++ upper digits
    ++ (if CharClass.isPrint c then (" '" : Bytes) ++ Utf8.encode c ++ "'" else [])

/-- A character between apostrophes, as messages quote it. -/
def quoteRune (c : UInt8) : Bytes := [squote, c, squote]

/-- What follows a run of white space, without line feeds when one would end a
statement. -/
def isBlankIn (endsLine : Bool) (c : UInt8) : Bool :=
  c = 0x20 || c = 0x09 || c = 0x0d || (c = newline && !endsLine)

/-! ## Comments -/

/-- A comment from behind its opening slash: its text, whether it is complete, and
whether it reaches the end of its line. -/
def comment (s : Bytes) : Bytes × Bool × Bool :=
  match s with
  | a :: b :: r =>
    if b = slash then (a :: b :: r.takeWhile (· ≠ newline), true, true)
    else
      match indexOf? "*/" r with
      | some i => (a :: b :: r.take (i + 2), true, (r.take i).contains newline)
      | none => (s, false, r.contains newline)
  | _ => (s, true, false)

/-- Whether only comments and blanks stand between here and the end of the line. -/
def reachesLineEnd : Nat → Bytes → Bool
  | 0, _ => false
  | fuel + 1, s =>
    let (text, _, ends) := comment s
    ends ||
      match (s.drop text.length).dropWhile (isBlankIn true) with
      | [] => true
      | c :: r =>
        if c = newline then true
        else match r with
          | d :: _ => c = slash && (d = slash || d = ch '*') && reachesLineEnd fuel (c :: r)
          | [] => false

/-! ## Numbers -/

/-- What a prefix makes of a number: its base, and how messages call it. -/
structure Radix where
  /-- The base of the digits. -/
  base : Nat
  /-- The letter of the prefix; `0` for a bare leading zero, none for decimals. -/
  letter : Option UInt8

/-- How messages call a literal. -/
def Radix.name (r : Radix) : Bytes :=
  if r.letter = some (ch 'x') then "hexadecimal literal"
  else if r.letter = some (ch 'o') || r.letter = some (ch '0') then "octal literal"
  else if r.letter = some (ch 'b') then "binary literal"
  else "decimal literal"

/-- The run of digits and underscores at the front of a text. -/
def digitRun (base : Nat) (s : Bytes) : Bytes × Bytes :=
  s.span fun c => c = ch '_' || (if base ≤ 10 then isDigit c else (hexValue? c).isSome)

/-- Whether a run holds a digit. -/
def hasDigit (ds : Bytes) : Bool := ds.any (· ≠ ch '_')

/-- The position of the first digit too large for the base. -/
def badDigit? (base : Nat) (ds : Bytes) : Option Nat :=
  if base ≤ 10 then ds.findIdx? fun c => c ≠ ch '_' && base ≤ c.toNat - 48 else none

/-- The position of the first underscore that does not stand between digits. `before` is
the class of the byte before: a digit, an underscore, or anything else. -/
def badUnderscore? (base : Nat) : UInt8 → Nat → Bytes → Option Nat
  | before, i, [] => if before = ch '_' then some (i - 1) else none
  | before, i, c :: s =>
    let digit := isDigit c || (base = 16 && (hexValue? c).isSome)
    if c = ch '_' then
      if before ≠ ch '0' then some i else badUnderscore? base (ch '_') (i + 1) s
    else if digit then badUnderscore? base (ch '0') (i + 1) s
    else if before = ch '_' then some (i - 1)
    else badUnderscore? base (ch '.') (i + 1) s

/-- A number at the front of a text: its kind, its text, and what is wrong with it, each
at a distance from its start. -/
def number (s : Bytes) : Tok × Bytes × List (Nat × Bytes) :=
  let lowerHead (r : Bytes) : UInt8 := lowerByte (r.headD 0)
  let fractional := s.headD 0 = ch '.'
  let (radix, opening, r) : Radix × Bytes × Bytes :=
    if s.headD 0 = ch '0' then
      let r := s.drop 1
      let l := lowerHead r
      if l = ch 'x' then (⟨16, some (ch 'x')⟩, s.take 2, r.drop 1)
      else if l = ch 'o' then (⟨8, some (ch 'o')⟩, s.take 2, r.drop 1)
      else if l = ch 'b' then (⟨2, some (ch 'b')⟩, s.take 2, r.drop 1)
      else (⟨8, some (ch '0')⟩, s.take 1, r)
    else (⟨10, none⟩, [], s)
  let (whole, r) := if fractional then ([], r) else digitRun radix.base r
  let atPoint := opening.length + whole.length
  let point := r.headD 0 = ch '.'
  let (frac, r) := if point then digitRun radix.base (r.drop 1) else ([], r)
  let e₁ := if point && (radix.letter = some (ch 'o') || radix.letter = some (ch 'b')) then
      [(atPoint, ("invalid radix point in " : Bytes) ++ radix.name)] else []
  let anyDigit := radix.letter = some (ch '0') || hasDigit whole || hasDigit frac
  let atExp := atPoint + (if point then 1 + frac.length else 0)
  let e₂ := if anyDigit then [] else [(atExp, radix.name ++ " has no digits")]
  let mark := lowerHead r
  let hasExp := mark = ch 'e' || mark = ch 'p'
  let markByte := r.headD 0
  let (exp, expDigits, r') :=
    if hasExp then
      let r₁ := r.drop 1
      let sign := if r₁.headD 0 = ch '+' || r₁.headD 0 = ch '-' then r₁.take 1 else []
      let (ds, r₂) := digitRun 10 (r₁.drop sign.length)
      (r.take 1 ++ sign ++ ds, ds, r₂)
    else ([], [], r)
  let e₃ : List (Nat × Bytes) :=
    if hasExp then
      (if mark = ch 'e' && radix.letter.isSome && radix.letter ≠ some (ch '0') then
        [(atExp, quoteRune markByte ++ (" exponent requires decimal mantissa" : Bytes))]
      else if mark = ch 'p' && radix.letter ≠ some (ch 'x') then
        [(atExp, quoteRune markByte ++ (" exponent requires hexadecimal mantissa" : Bytes))]
      else [])
      ++ (if hasDigit expDigits then []
        else [(atExp + exp.length, ("exponent has no digits" : Bytes))])
    else if radix.letter = some (ch 'x') && point then
      [(atExp, "hexadecimal mantissa requires a 'p' exponent")]
    else []
  let suffix := if r'.headD 0 = ch 'i' then r'.take 1 else []
  let kind := if !suffix.isEmpty then Tok.imag
    else if point || hasExp then .float else .int
  let lit := s.take (atExp + exp.length + suffix.length)
  let e₄ : List (Nat × Bytes) := match badDigit? radix.base whole with
    | some i =>
      if kind = .int then
        [(opening.length + i,
          "invalid digit " ++ quoteRune (whole.getD i 0) ++ " in " ++ radix.name)]
      else []
    | none => []
  let e₅ : List (Nat × Bytes) :=
    if lit.contains (ch '_') then
      match badUnderscore? radix.base (if opening.isEmpty then ch '.' else ch '0') opening.length
          (lit.drop opening.length) with
      | some i => [(i, "'_' must separate successive digits")]
      | none => []
    else []
  (kind, lit, e₁ ++ e₂ ++ e₃ ++ e₄ ++ e₅)

/-! ## Character and string literals -/

/-- What is wrong with an escape, from behind its backslash, and how many bytes it
takes. -/
def escape (quote : UInt8) (s : Bytes) : Nat × List (Nat × Bytes) :=
  let numeric (skip n base max : Nat) : Nat × List (Nat × Bytes) :=
    let digits := (s.drop skip).take n
    let good := digits.takeWhile fun c =>
      match hexValue? c with
      | some v => v < base
      | none => false
    if good.length < n then
      let rest := s.drop (skip + good.length)
      let msg : Bytes := match Utf8.next? rest with
        | some r => "illegal character " ++ showRune r.code ++ " in escape sequence"
        | none => "escape sequence not terminated"
      (skip + good.length, [(1 + skip + good.length, msg)])
    else
      let v := good.foldl (fun v c => v * base + (hexValue? c).getD 0) 0
      if v > max || (0xd800 ≤ v && v < 0xe000) then
        (skip + n, [(1, "escape sequence is invalid Unicode code point")])
      else (skip + n, [])
  match s with
  | [] => (0, [(1, "escape sequence not terminated")])
  | c :: _ =>
    if c = quote || c = backslash || Quoted.shortEscapes.any (·.1 == c) then (1, [])
    else if ch '0' ≤ c && c ≤ ch '7' then numeric 0 3 8 255
    else if c = ch 'x' then numeric 1 2 16 255
    else if c = ch 'u' then numeric 1 4 16 0x10ffff
    else if c = ch 'U' then numeric 1 8 16 0x10ffff
    else (0, [(1, "unknown escape sequence")])

/-- The inside of a literal up to its closing quote: how long it is with the quote, how
many characters it has, and what is wrong with it. An unterminated literal ends before
the line feed. -/
def inside (quote : UInt8) : Nat → Nat → Bytes → Nat × Nat × Bool × List (Nat × Bytes)
  | 0, start, _ => (start, 0, false, [])
  | _, start, [] => (start, 0, false, [])
  | fuel + 1, start, c :: s =>
    if c = quote then (start + 1, 0, true, [])
    else if c = newline then (start, 0, false, [])
    else if c = backslash then
      let (n, errs) := escape quote s
      let (stop, count, done, more) := inside quote fuel (start + 1 + n) (s.drop n)
      (stop, count + 1, done, errs.map (fun (d, m) => (start + d, m)) ++ more)
    else
      let width := match Utf8.next? (c :: s) with
        | some r => r.raw.length
        | none => 1
      let (stop, count, done, more) := inside quote fuel (start + width) ((c :: s).drop width)
      (stop, count + 1, done, more)

/-- A literal between quotes or apostrophes at the front of a text: its text and what is
wrong with it. Between apostrophes a bad escape says enough on its own. -/
def quoted (s : Bytes) : Bytes × List (Nat × Bytes) :=
  let quote := s.headD 0
  let (stop, count, done, errs) := inside quote s.length 1 (s.drop 1)
  let final : List (Nat × Bytes) :=
    if quote = dquote then
      if done then [] else [(0, "string literal not terminated")]
    else if !errs.isEmpty then []
    else if !done then [(0, "rune literal not terminated")]
    else if count ≠ 1 then [(0, "illegal rune literal")]
    else []
  (s.take stop, errs ++ final)

/-- A raw literal at the front of a text. -/
def raw (s : Bytes) : Bytes × List (Nat × Bytes) :=
  let body := (s.drop 1).takeWhile (· ≠ grave)
  if body.length + 1 < s.length then (s.take (body.length + 2), [])
  else (s, [(0, "raw string literal not terminated")])

/-! ## Tokens -/

/-- The name at the front of a text. -/
def name (s : Bytes) : Bytes :=
  Utf8.bytes ((Utf8.runes s).takeWhile fun r =>
    r.valid && (isLetter r.code || CharClass.isDigit r.code))

/-- The name at the front of a text that starts with a letter, ASCII letters first. -/
def identifier (s : Bytes) : Bytes :=
  let (ascii, r) := s.span isIdentChar
  match r with
  | c :: _ => if c < 0x80 then ascii else name s
  | [] => ascii

/-- The character that may only open a file. -/
def byteOrderMark : Nat := 0xfeff

/-- One token at the front of a text that starts with no white space: its kind, its
text, and what is wrong with it. -/
def token (s : Bytes) : Tok × Bytes × List (Nat × Bytes) :=
  match s with
  | [] => (.eof, [], [])
  | c :: s' =>
    let startsNumber := isDigit c || (c = ch '.' && isDigit (s'.headD 0))
    if startsNumber then number s
    else if c = dquote then
      let (lit, errs) := quoted s
      (.string, lit, errs)
    else if c = squote then
      let (lit, errs) := quoted s
      (.char, lit, errs)
    else if c = grave then
      let (lit, errs) := raw s
      (.string, lit, errs)
    else
      let head : Rune := (Utf8.next? s).getD ⟨0xfffd, [c], false⟩
      if head.valid && isLetter head.code then
        let lit := identifier s
        (if isKeyword lit then .word lit else .ident, lit, [])
      else
        match operators.find? fun o => startsWith s o with
        | some o => (.op o, o, [])
        | none =>
          let errs : List (Nat × Bytes) :=
            if head.code = byteOrderMark then []
            else if head.code = 0x201c || head.code = 0x201d then
              [(0, "curly quotation mark '" ++ head.raw ++ "' (use neutral '\"')")]
            else [(0, "illegal character " ++ showRune head.code)]
          (.illegal, head.raw, errs)

/-- **What scanning finds.** -/
structure Scanned where
  /-- The tokens. -/
  tokens : List Token := []
  /-- What is wrong with them. -/
  complaints : List Complaint := []
  /-- The comments that are complete. -/
  comments : List Comment := []

/-- The text of a literal as it counts: a raw one has no carriage returns. -/
def literalText (kind : Tok) (lit : Bytes) : Bytes :=
  if kind = .string && lit.headD 0 = grave then lit.filter (· ≠ 0x0d) else lit

/-- The tokens of a text from a place on. `ends` says whether a line could end a statement
here. -/
def tokens : Nat → Bool → Place → Bytes → Scanned
  | 0, _, _, _ => {}
  | fuel + 1, ends, pos, s =>
    let (blank, s) := s.span (isBlankIn ends)
    let pos := pos.after blank
    let implied : Token := ⟨.semicolon, [newline], pos⟩
    match s with
    | [] =>
      let eof : Token := ⟨.eof, [], pos⟩
      { tokens := if ends then [implied, eof] else [eof] }
    | c :: s' =>
      let isComment := c = slash && (s'.headD 0 = slash || s'.headD 0 = ch '*')
      if c = newline then
        let rest := tokens fuel false (pos.step c) s'
        { rest with tokens := implied :: rest.tokens }
      else if isComment then
        if ends && reachesLineEnd s.length s then
          let rest := tokens fuel false pos s
          { rest with tokens := implied :: rest.tokens }
        else
          let (text, complete, _) := comment s
          let rest := tokens fuel ends (pos.after text) (s.drop text.length)
          if complete then
            { rest with comments := ⟨pos, text, s'.headD 0 ≠ slash⟩ :: rest.comments }
          else { rest with complaints := ⟨pos, "comment not terminated"⟩ :: rest.complaints }
      else
        let (kind, lit, errs) := token s
        let errs := errs.map fun (d, m) => Complaint.mk (pos.after (s.take d)) m
        let ends' := if kind = .illegal then ends else kind.endsStatement
        let rest := tokens fuel ends' (pos.after lit) (s.drop lit.length)
        { rest with
          tokens := ⟨kind, literalText kind lit, pos⟩ :: rest.tokens
          complaints := errs ++ rest.complaints }

/-- Where a text ends. A line feed at the very end starts no line of its own. -/
def endPlace (s : Bytes) : Place :=
  match s.getLast? with
  | none => {}
  | some c =>
    let p := Place.after {} s.dropLast
    if c = newline then ⟨s.length, p.line, p.column + 1⟩ else p.step c

/-- What is wrong with a character wherever it stands, in a literal or a comment too. -/
def strayFault? (pos : Place) (r : Rune) : Option Bytes :=
  if !r.valid then some "illegal UTF-8 encoding"
  else if r.code = 0 then some "illegal character NUL"
  else if r.code = byteOrderMark && pos.offset > 0 then some "illegal byte order mark"
  else none

/-- The characters no file may hold. -/
def strays (s : Bytes) : List Complaint :=
  if s.all fun c => 0 < c && c < 0x80 then []
  else
    let step (at' : Place × List Complaint) (r : Rune) : Place × List Complaint :=
      let found := match strayFault? at'.1 r with
        | some m => ⟨at'.1, m⟩ :: at'.2
        | none => at'.2
      (at'.1.after r.raw, found)
    ((Utf8.runes s).foldl step ({}, [])).2.reverse

/-- **A file as the grammar sees it.** -/
structure Source where
  /-- The tokens, ending with the end of the file. -/
  tokens : List Token
  /-- What is wrong with the text. -/
  complaints : List Complaint
  /-- The places from which on positions are shown differently. -/
  marks : List LineMark
  /-- The minor version of the language the file is limited to. -/
  version : Option Nat

/-- **The tokens of a file**, and what its comments say. A mark of the byte order at its
very start is skipped. -/
def scan (name s : Bytes) : Source :=
  let mark := Utf8.encode byteOrderMark
  let (start, body) : Place × Bytes := match dropPrefix? mark s with
    | some r => (Place.after {} mark, r)
    | none => ({}, s)
  let found := tokens (2 * s.length + 2) false start body
  let ts := found.tokens.map fun t => if t.kind = .eof then { t with pos := endPlace s } else t
  let top := (ts.head?.map fun t => t.pos.offset).getD 0
  let heading := found.comments.filter fun c => c.pos.offset < top
  let (marks, faults) := LineMark.ofComments name s.length found.comments
  { tokens := ts
    complaints := found.complaints ++ faults ++ strays s
    marks := marks
    version := BuildCondition.versionOf (heading.map Comment.text) }

end Stencil.Host.Scanner
