import Stencil.Text.CharClass

/-!
# Quoted literals

A text is quoted by writing it between double quotes with everything that could
not be shown escaped: the quote and the backslash, control characters, and every
byte that is not part of a valid encoding. `quote` is total and loses nothing.

`unquote?` reads a literal back. It accepts more than `quote` writes – raw
literals between grave accents, a single character between apostrophes, octal
and short escapes – and refuses a literal with a line feed in it, an escape it
does not know, or anything after the closing quote.
-/

namespace Stencil.Quoted

open Bytes

/-- The short escapes: the letter after the backslash and the byte it stands for. -/
def shortEscapes : List (UInt8 × Nat) :=
  [(ch 'a', 7), (ch 'b', 8), (ch 'f', 12), (ch 'n', 10), (ch 'r', 13), (ch 't', 9), (ch 'v', 11)]

/-- How one character is written between double quotes. -/
def quoteRune (r : Rune) : Bytes :=
  if !r.valid then r.raw.flatMap fun b => "\\x" ++ hex 2 b.toNat
  else if r.code = 0x22 || r.code = 0x5c then backslash :: r.raw
  else if CharClass.isPrint r.code then r.raw
  else
    match shortEscapes.find? (·.2 == r.code) with
    | some (letter, _) => [backslash, letter]
    | none =>
      if r.code < 0x20 || r.code = 0x7f then "\\x" ++ hex 2 r.code
      else if r.code < 0x10000 then "\\u" ++ hex 4 r.code
      else "\\U" ++ hex 8 r.code

/-- **A text as a literal between double quotes.** -/
def quote (s : Bytes) : Bytes :=
  dquote :: (Utf8.runes s).flatMap quoteRune ++ [dquote]

/-- The value of `n` hexadecimal digits and the text after them. -/
def hexDigits? : Nat → Bytes → Option (Nat × Bytes)
  | n, s =>
    let digits := (s.take n).map hexValue?
    if digits.length = n && digits.all Option.isSome then
      some (digits.foldl (fun v d => v * 16 + d.getD 0) 0, s.drop n)
    else none

/-- Whether a number is a code point that can be encoded. -/
def isCodePoint (c : Nat) : Bool := c < 0x110000 && !(0xd800 ≤ c && c < 0xe000)

/-- The bytes an escape stands for and the text after it; `s` starts behind the
backslash. -/
def escape? (q : UInt8) : Bytes → Option (Bytes × Bytes)
  | [] => none
  | c :: s =>
    match shortEscapes.find? (·.1 == c) with
    | some (_, v) => some ([v.toUInt8], s)
    | none =>
      if c = ch 'x' then
        (hexDigits? 2 s).map fun (v, r) => ([v.toUInt8], r)
      else if c = ch 'u' || c = ch 'U' then
        match hexDigits? (if c = ch 'u' then 4 else 8) s with
        | some (v, r) => if isCodePoint v then some (Utf8.encode v, r) else none
        | none => none
      else if ch '0' ≤ c && c ≤ ch '7' then
        match s with
        | d :: e :: r =>
          let v := (c.toNat - 48) * 64 + (d.toNat - 48) * 8 + (e.toNat - 48)
          if ch '0' ≤ d && d ≤ ch '7' && ch '0' ≤ e && e ≤ ch '7' && v < 256 then
            some ([v.toUInt8], r)
          else none
        | _ => none
      else if c = backslash || c = q then some ([c], s)
      else none

/-- The text an interpreted literal stands for, up to its closing quote, and the
rest behind that quote. A byte that is no valid encoding reads as the
replacement character. -/
def body? (q : UInt8) (single : Bool) (fuel : Nat) (s : Bytes) : Option (Bytes × Bytes) :=
  match fuel, s with
  | 0, _ => none
  | _, [] => none
  | fuel + 1, c :: r =>
    if c = q then (if single then none else some ([], r))
    else if c = newline then none
    else
      let piece :=
        if c = backslash then escape? q r
        else if c < 0x80 then some ([c], r)
        else (Utf8.next? s).map fun u => (Utf8.encode u.code, s.drop u.raw.length)
      match piece with
      | none => none
      | some (bytes, r') =>
        if single then
          match r' with
          | c' :: r'' => if c' = q then some (bytes, r'') else none
          | [] => none
        else (body? q false fuel r').map fun (t, rest) => (bytes ++ t, rest)

/-- **The text a literal stands for**, when the whole of `s` is one literal. -/
def unquote? (s : Bytes) : Option Bytes :=
  match s with
  | [] => none
  | q :: r =>
    if q = grave then
      match r.span (· ≠ grave) with
      | (inner, [_]) => some (inner.filter (· ≠ 0x0d))
      | _ => none
    else if q = dquote || q = squote then
      match body? q (q = squote) (r.length + 1) r with
      | some (t, []) => some t
      | _ => none
    else none

end Stencil.Quoted
