/-!
# Byte strings

Every text the compiler reads or writes – component sources, paths, generated
code, messages – is a sequence of bytes that need not be valid UTF-8, and
lines, positions and slices are all counted in bytes. So the text type is
`Bytes`, a plain list of bytes: a scanner is a recursion on the list, a slice
is `take` or `drop`, and a line number is a `count`.

The functions here are the vocabulary the rest of the library is written in:
finding a pattern, cutting at a separator, stripping a marker from either end,
the ASCII character classes, and the decimal text of a number. A string
literal is read as the bytes of its UTF-8 encoding, through the coercion from
`String`, so a message can be written as a literal and appended to bytes that
came from the input.
-/

namespace Stencil

/-- **A text is a list of bytes.** -/
abbrev Bytes := List UInt8

/-- The byte of an ASCII character. -/
abbrev ch (c : Char) : UInt8 := c.val.toUInt8

namespace Utf8

/-- The UTF-8 encoding of one code point. A surrogate or a number beyond
U+10FFFF has none and is written as the replacement character U+FFFD. -/
def encode (c : Nat) : Bytes :=
  if c < 0x80 then [c.toUInt8]
  else if c < 0x800 then [(0xc0 + c / 64).toUInt8, (0x80 + c % 64).toUInt8]
  else if 0xd800 ≤ c ∧ c < 0xe000 then [0xef, 0xbf, 0xbd]
  else if c < 0x10000 then
    [(0xe0 + c / 4096).toUInt8, (0x80 + c / 64 % 64).toUInt8, (0x80 + c % 64).toUInt8]
  else if c < 0x110000 then
    [(0xf0 + c / 262144).toUInt8, (0x80 + c / 4096 % 64).toUInt8,
      (0x80 + c / 64 % 64).toUInt8, (0x80 + c % 64).toUInt8]
  else [0xef, 0xbf, 0xbd]

end Utf8

namespace Bytes

/-- The bytes of a string literal: its UTF-8 encoding. -/
def ofString (s : String) : Bytes :=
  s.toList.flatMap fun c => Utf8.encode c.toNat

instance : Coe String Bytes := ⟨ofString⟩

/-! ## Named bytes -/

/-- The line feed. -/
abbrev newline : UInt8 := 0x0a

/-- The double quote. -/
abbrev dquote : UInt8 := 0x22

/-- The apostrophe. -/
abbrev squote : UInt8 := 0x27

/-- The backslash. -/
abbrev backslash : UInt8 := 0x5c

/-- The grave accent that delimits raw string literals. -/
abbrev grave : UInt8 := 0x60

/-- The left brace. -/
abbrev lbrace : UInt8 := 0x7b

/-- The right brace. -/
abbrev rbrace : UInt8 := 0x7d

/-- The slash that separates path segments. -/
abbrev slash : UInt8 := 0x2f

/-! ## Classes of single bytes -/

/-- A letter or underscore, which can start an identifier. -/
def isIdentStart (c : UInt8) : Bool :=
  c == ch '_' || (ch 'a' ≤ c && c ≤ ch 'z') || (ch 'A' ≤ c && c ≤ ch 'Z')

/-- A decimal digit. -/
def isDigit (c : UInt8) : Bool :=
  ch '0' ≤ c && c ≤ ch '9'

/-- A letter, digit or underscore, which can continue an identifier. -/
def isIdentChar (c : UInt8) : Bool :=
  isIdentStart c || isDigit c

/-- The six ASCII white-space bytes. -/
def isSpace (c : UInt8) : Bool :=
  c == ch ' ' || (0x09 ≤ c && c ≤ 0x0d)

/-- A blank that does not end a line. -/
def isBlank (c : UInt8) : Bool :=
  c == ch ' ' || c == 0x09

/-- An upper-case ASCII letter. -/
def isUpper (c : UInt8) : Bool :=
  ch 'A' ≤ c && c ≤ ch 'Z'

/-- The lower-case form of an ASCII letter; any other byte stays. -/
def lowerByte (c : UInt8) : UInt8 :=
  if isUpper c then c + 32 else c

/-- The upper-case form of an ASCII letter; any other byte stays. -/
def upperByte (c : UInt8) : UInt8 :=
  if ch 'a' ≤ c && c ≤ ch 'z' then c - 32 else c

/-- ASCII lower case of a whole text. -/
def lower (s : Bytes) : Bytes := s.map lowerByte

/-- ASCII upper case of a whole text. -/
def upper (s : Bytes) : Bytes := s.map upperByte

/-! ## Searching -/

/-- The text after `p`, when `s` starts with `p`. -/
def dropPrefix? : Bytes → Bytes → Option Bytes
  | [], s => some s
  | _ :: _, [] => none
  | a :: p, b :: s => if a = b then dropPrefix? p s else none

/-- Whether `s` starts with `p`. -/
def startsWith (s p : Bytes) : Bool := (dropPrefix? p s).isSome

/-- Whether `s` ends with `p`. -/
def endsWith (s p : Bytes) : Bool := startsWith s.reverse p.reverse

/-- `s` without the leading `p`, or `s` itself when it does not start so. -/
def trimPrefix (s p : Bytes) : Bytes := (dropPrefix? p s).getD s

/-- `s` without the trailing `p`, or `s` itself when it does not end so. -/
def trimSuffix (s p : Bytes) : Bytes :=
  match dropPrefix? p.reverse s.reverse with
  | some r => r.reverse
  | none => s

/-- The position of the first occurrence of `p` in `s`. -/
def indexOf? (p : Bytes) : Bytes → Option Nat
  | [] => if p.isEmpty then some 0 else none
  | c :: s => if startsWith (c :: s) p then some 0 else (indexOf? p s).map (· + 1)

/-- Whether `p` occurs in `s`. -/
def contains (s p : Bytes) : Bool := (indexOf? p s).isSome

/-- The number of line feeds in a text. -/
def newlines (s : Bytes) : Nat := s.count newline

/-! ## Cutting and joining -/

/-- The pieces between the occurrences of a separator byte. There is always
one piece more than there are separators. -/
def splitOn (sep : UInt8) : Bytes → List Bytes
  | [] => [[]]
  | c :: s =>
    if c = sep then [] :: splitOn sep s
    else
      match splitOn sep s with
      | [] => [[c]]
      | piece :: rest => (c :: piece) :: rest

/-- The lines of a text: the pieces between its line feeds. -/
def lines (s : Bytes) : List Bytes := splitOn newline s

/-- The pieces with a separator between each two. -/
def join (sep : Bytes) : List Bytes → Bytes
  | [] => []
  | [piece] => piece
  | piece :: rest => piece ++ sep ++ join sep rest

/-- The parts before and after the first `sep`, or the whole text and nothing
when there is none. -/
def cut (sep : UInt8) (s : Bytes) : Bytes × Bytes :=
  (s.takeWhile (· ≠ sep), (s.dropWhile (· ≠ sep)).drop 1)

/-- The parts before and after the last `sep`, if there is one. -/
def cutLast? (sep : UInt8) (s : Bytes) : Option (Bytes × Bytes) :=
  let tail := (s.reverse.takeWhile (· ≠ sep)).reverse
  if tail.length < s.length then some (s.take (s.length - tail.length - 1), tail) else none

/-- Every occurrence of the byte `a` replaced by the text `b`. -/
def replaceByte (a : UInt8) (b : Bytes) (s : Bytes) : Bytes :=
  s.flatMap fun c => if c = a then b else [c]

/-- The parts of a text between the places where another text stands, with a bound on how
many there are. -/
def splitTextUpTo (sep : Bytes) : Nat → Bytes → List Bytes
  | 0, s => [s]
  | n + 1, s =>
    match indexOf? sep s with
    | none => [s]
    | some i => s.take i :: splitTextUpTo sep n (s.drop (i + sep.length))

/-- The parts of a text between the places where another text stands. -/
def splitText (sep s : Bytes) : List Bytes := splitTextUpTo sep s.length s

/-- The text with another text for a third one wherever that stands. -/
def replaceText (old new s : Bytes) : Bytes := join new (splitText old s)

/-- The text repeated `n` times. -/
def times (n : Nat) (s : Bytes) : Bytes := (List.replicate n s).flatten

/-! ## Order -/

/-- Lexicographic order on bytes, shorter texts first. -/
def le : Bytes → Bytes → Bool
  | [], _ => true
  | _ :: _, [] => false
  | a :: s, b :: t => if a < b then true else if b < a then false else le s t

/-- The texts in ascending order. -/
def sort (l : List Bytes) : List Bytes := l.mergeSort le

/-- The list with every repetition after the first occurrence dropped. -/
def dedup (l : List Bytes) : List Bytes :=
  (l.foldl (fun acc x => if acc.contains x then acc else x :: acc) []).reverse

/-! ## Numbers -/

/-- The decimal digits of a number. -/
def ofNat (n : Nat) : Bytes := (Nat.toDigits 10 n).map ch

/-- The decimal text of an integer, a minus sign before a negative one. -/
def ofInt : Int → Bytes
  | .ofNat n => ofNat n
  | .negSucc n => ch '-' :: ofNat (n + 1)

/-- The digit of a number below sixteen, in lower case. -/
def hexDigit (n : Nat) : UInt8 :=
  if n < 10 then (48 + n).toUInt8 else (87 + n).toUInt8

/-- A number in base sixteen, padded to `width` digits. -/
def hex (width n : Nat) : Bytes :=
  ((List.range width).map fun i => hexDigit (n / Nat.pow 16 i % 16)).reverse

/-- The value of a hexadecimal digit, in either case. -/
def hexValue? (c : UInt8) : Option Nat :=
  if isDigit c then some (c.toNat - 48)
  else if ch 'a' ≤ c && c ≤ ch 'f' then some (c.toNat - 87)
  else if ch 'A' ≤ c && c ≤ ch 'F' then some (c.toNat - 55)
  else none

/-- The bytes of a text in base sixteen, two digits each. -/
def toHex (s : Bytes) : Bytes := s.flatMap fun b => hex 2 b.toNat

/-- The bytes that pairs of digits in base sixteen say, up to the first that are none. -/
def ofHex : Bytes → Bytes
  | a :: b :: r =>
    match hexValue? a, hexValue? b with
    | some x, some y => (16 * x + y).toUInt8 :: ofHex r
    | _, _ => []
  | _ => []

/-- The value of a run of decimal digits, ignoring anything else. -/
def digitsValue (s : Bytes) : Nat :=
  s.foldl (fun n c => 10 * n + (c.toNat - 48)) 0

/-- The number a non-empty run of decimal digits writes. -/
def toNat? (s : Bytes) : Option Nat :=
  if s.isEmpty || !s.all isDigit then none else some (digitsValue s)

end Bytes

end Stencil
