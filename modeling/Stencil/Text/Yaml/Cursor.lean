import Stencil.Text.Utf8

/-!
# Places in a YAML text

A YAML text is read as a sequence of characters, and every complaint about it names a place.
A `Cursor` is what is left of a text together with the place that has been reached.

Five characters end a line: the line feed, the carriage return, the next line character and
the separators of lines and of paragraphs; a carriage return and a line feed together end
one line only. The two separators stay in a text that is put together from lines, the others
become a line feed.
-/

namespace Stencil.Yaml

open Bytes

/-- Why a text cannot be read, and the line, zero if that is not known. -/
structure Error where
  /-- The line. -/
  line : Nat
  /-- What is wrong there. -/
  message : Bytes
  deriving DecidableEq, Repr

/-- The wording of an error. -/
def Error.render (e : Error) : Bytes :=
  "yaml: " ++ (if e.line = 0 then ([] : Bytes) else "line " ++ Bytes.ofNat e.line ++ ": ")
    ++ e.message

/-- A place in a text: how many characters and lines lie before it, and how many characters
of its line. -/
structure Mark where
  /-- The characters before it. -/
  index : Nat := 0
  /-- The lines before it. -/
  line : Nat := 0
  /-- The characters before it in its line. -/
  column : Nat := 0
  deriving DecidableEq, Repr, Inhabited

/-- **What is left of a text**, and where it starts. -/
structure Cursor where
  /-- The characters that are left. -/
  rest : List Nat
  /-- Where they start. -/
  mark : Mark := {}
  /-- Whether nothing but blanks stands between here and the end of the line before. -/
  fresh : Bool := false
  deriving Repr

/-! ## Classes of characters -/

/-- Whether a character is a blank or a tab. -/
def isBlankChar (c : Nat) : Bool := c = 0x20 || c = 0x09

/-- Whether a character ends a line. -/
def isBreakChar (c : Nat) : Bool :=
  c = 0x0a || c = 0x0d || c = 0x85 || c = 0x2028 || c = 0x2029

/-- Whether a character is white space. -/
def isWhite (c : Nat) : Bool := isBlankChar c || isBreakChar c

/-- Whether a character can be part of a name: an ASCII letter or digit, an underscore or a
dash. -/
def isNameChar (c : Nat) : Bool :=
  (0x30 ≤ c && c ≤ 0x39) || (0x41 ≤ c && c ≤ 0x5a) || (0x61 ≤ c && c ≤ 0x7a)
    || c = 0x5f || c = 0x2d

/-- Whether a character is one of those of an ASCII text. -/
def isOneOf (s : String) (c : Nat) : Bool := s.toList.any fun d => d.toNat = c

/-- The bytes of a sequence of characters. -/
def encodeAll (cs : List Nat) : Bytes := cs.flatMap Utf8.encode

namespace Cursor

/-- The next character. -/
def head? (c : Cursor) : Option Nat := c.rest.head?

/-- Whether the next character is a given one. -/
def startsWith (c : Cursor) (ch : Char) : Bool := c.rest.head? = some ch.toNat

/-- Whether the text is at its end or at white space after so many characters. -/
def isWhiteAt (c : Cursor) (n : Nat) : Bool := (c.rest[n]?).all isWhite

/-- Whether the text is at its end or at the end of a line. -/
def isAtEnd (c : Cursor) : Bool := c.rest.head?.all isBreakChar

/-- The place so many characters further on in the same line. -/
def advance (c : Cursor) (n : Nat) : Cursor where
  rest := c.rest.drop n
  mark := { c.mark with index := c.mark.index + n, column := c.mark.column + n }
  fresh := c.fresh && (c.rest.take n).all isBlankChar

/-- The characters of the line that satisfy a test, and the place behind them. -/
def span (p : Nat → Bool) (c : Cursor) : List Nat × Cursor :=
  let taken := c.rest.takeWhile p
  (taken, c.advance taken.length)

/-- The place behind the characters of the line that satisfy a test. -/
def skipWhile (p : Nat → Bool) (c : Cursor) : Cursor := (c.span p).2

/-- The line break at a place, as it stays in a text, and the start of the next line. -/
def lineBreak (c : Cursor) : List Nat × Cursor :=
  let next (n : Nat) : Cursor :=
    { rest := c.rest.drop n
      mark := { index := c.mark.index + n, line := c.mark.line + 1, column := 0 }
      fresh := true }
  match c.rest with
  | [] => ([], c)
  | b :: r =>
    if b = 0x0d && r.head? = some 0x0a then ([0x0a], next 2)
    else if b = 0x2028 || b = 0x2029 then ([b], next 1)
    else if isBreakChar b then ([0x0a], next 1)
    else ([], c)

/-- The place at the end of the line. -/
def skipLine (c : Cursor) : Cursor := c.skipWhile fun d => !isBreakChar d

/-- Whether a line that starts or ends a document stands here. -/
def isDocumentMark (c : Cursor) : Bool :=
  c.mark.column = 0 && (c.rest.take 3 = [0x2d, 0x2d, 0x2d] || c.rest.take 3 = [0x2e, 0x2e, 0x2e])
    && c.isWhiteAt 3

/-! ## Complaints -/

/-- A complaint about characters, with the place where the thing started that could not be
read. A place in the first line is not worth naming. -/
def fault (c : Cursor) (start : Mark) (message : Bytes) : Error :=
  ⟨if start.line ≠ 0 then start.line + 1 else if c.mark.line ≠ 0 then c.mark.line + 1 else 0,
    message⟩

end Cursor

/-- A complaint about the order of things: it names the line before the place where the
enclosing thing started, or before the place where it went wrong. -/
def Error.misplaced (start problem : Mark) (message : Bytes) : Error :=
  ⟨if start.line ≠ 0 then start.line else problem.line, message⟩

/-! ## Reading characters -/

/-- Whether a character may occur in a text at all. -/
def isAllowed (c : Nat) : Bool :=
  c = 0x09 || c = 0x0a || c = 0x0d || (0x20 ≤ c && c ≤ 0x7e) || c = 0x85
    || (0xa0 ≤ c && c ≤ 0xd7ff) || (0xe000 ≤ c && c ≤ 0xfffd) || (0x10000 ≤ c && c ≤ 0x10ffff)

/-- What is wrong with the bytes at the front of a text that are no character. -/
def damage (s : Bytes) : Bytes :=
  match s with
  | [] => []
  | b :: r =>
    let b := b.toNat
    let width := if b < 0x80 then 1 else if b / 0x20 = 6 then 2 else if b / 0x10 = 0xe then 3
      else if b / 8 = 0x1e then 4 else 0
    if width = 0 then "invalid leading UTF-8 octet"
    else if r.length + 1 < width then "incomplete UTF-8 octet sequence"
    else
      let tail := (r.take (width - 1)).map UInt8.toNat
      if tail.any fun d => d / 0x40 ≠ 2 then "invalid trailing UTF-8 octet"
      else
        let lead := if width = 2 then b % 0x20 else if width = 3 then b % 0x10 else b % 8
        let value := tail.foldl (fun v d => v * 0x40 + d % 0x40) lead
        if (width = 2 && value < 0x80) || (width = 3 && value < 0x800)
            || (width = 4 && value < 0x10000) then "invalid length of a UTF-8 sequence"
        else "invalid Unicode character"

/-- **The characters of a text**, unless it holds some that it must not. -/
def characters (s : Bytes) : Except Error (List Nat) :=
  go [] s (Utf8.runes s)
where
  /-- The characters so far, in reverse, and the bytes that are left. -/
  go (acc : List Nat) (s : Bytes) : List Rune → Except Error (List Nat)
    | [] => .ok acc.reverse
    | r :: rs =>
      if !r.valid then .error ⟨0, damage s⟩
      else if !isAllowed r.code then .error ⟨0, "control characters are not allowed"⟩
      else go (r.code :: acc) (s.drop r.raw.length) rs

end Stencil.Yaml
