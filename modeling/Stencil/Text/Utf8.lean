import Stencil.Text.Bytes

/-!
# Characters of a byte string

Some rules look at characters rather than bytes: which blanks are trimmed from
a path, which letters make up a type name, which characters may stand in a
quoted literal. `Utf8.runes` reads a byte string as a sequence of `Rune`s. A
rune remembers the bytes it was read from, so concatenating the raw bytes of
the runes gives the text back whatever it held: a byte that starts no valid
encoding is a rune of its own, with the replacement character as its code.
-/

namespace Stencil

/-- **One character as read from a byte string.** -/
structure Rune where
  /-- The code point; U+FFFD for a byte that starts no valid encoding. -/
  code : Nat
  /-- The bytes the character was read from. -/
  raw : Bytes
  /-- Whether the bytes are a valid encoding. -/
  valid : Bool
  deriving Repr, BEq, DecidableEq

namespace Utf8

/-- Whether a byte continues a multi-byte encoding, within narrower bounds
where the first byte demands them. -/
def isTail (lo hi : UInt8) (b : UInt8) : Bool := lo ≤ b && b ≤ hi

/-- The bounds of the second byte after first byte `a`, which exclude overlong
forms, surrogates and numbers beyond U+10FFFF. -/
def secondBounds (a : UInt8) : UInt8 × UInt8 :=
  if a = 0xe0 then (0xa0, 0xbf)
  else if a = 0xed then (0x80, 0x9f)
  else if a = 0xf0 then (0x90, 0xbf)
  else if a = 0xf4 then (0x80, 0x8f)
  else (0x80, 0xbf)

/-- The character at the head of a text, and `none` for the empty text. -/
def next? : Bytes → Option Rune
  | [] => none
  | a :: s =>
    let bad : Rune := ⟨0xfffd, [a], false⟩
    let (lo, hi) := secondBounds a
    if a < 0x80 then some ⟨a.toNat, [a], true⟩
    else if a < 0xc2 || 0xf4 < a then some bad
    else
      match s with
      | b :: s₁ =>
        if !isTail lo hi b then some bad
        else if a < 0xe0 then
          some ⟨(a.toNat - 0xc0) * 64 + (b.toNat - 0x80), [a, b], true⟩
        else
          match s₁ with
          | c :: s₂ =>
            if !isTail 0x80 0xbf c then some bad
            else if a < 0xf0 then
              some ⟨(a.toNat - 0xe0) * 4096 + (b.toNat - 0x80) * 64 + (c.toNat - 0x80),
                [a, b, c], true⟩
            else
              match s₂ with
              | d :: _ =>
                if !isTail 0x80 0xbf d then some bad
                else
                  some ⟨(a.toNat - 0xf0) * 262144 + (b.toNat - 0x80) * 4096
                    + (c.toNat - 0x80) * 64 + (d.toNat - 0x80), [a, b, c, d], true⟩
              | [] => some bad
          | [] => some bad
      | [] => some bad

/-- A text that is not empty has a first character, and that character takes
at least one byte. -/
theorem raw_length_pos {s : Bytes} {r : Rune} (h : next? s = some r) : 0 < r.raw.length := by
  unfold next? at h
  split at h
  · simp at h
  · grind

/-- The characters of a text, in order. -/
def runes (s : Bytes) : List Rune :=
  match _h : next? s with
  | none => []
  | some r => r :: runes (s.drop r.raw.length)
termination_by s.length
decreasing_by
  have hpos := raw_length_pos _h
  cases s with
  | nil => simp [next?] at _h
  | cons a s => simp only [List.length_drop, List.length_cons]; omega

/-- The bytes of a sequence of characters. -/
def bytes (rs : List Rune) : Bytes := rs.flatMap Rune.raw

/-- Whether a text is a sequence of valid encodings. -/
def isValid (s : Bytes) : Bool := (runes s).all Rune.valid

/-- The white space that is trimmed from both ends of a text and separates
fields: the ASCII blanks and the Unicode space separators. -/
def isSpace (c : Nat) : Bool :=
  (0x09 ≤ c && c ≤ 0x0d) || c == 0x20 || c == 0x85 || c == 0xa0 || c == 0x1680
    || (0x2000 ≤ c && c ≤ 0x200a) || c == 0x2028 || c == 0x2029 || c == 0x202f
    || c == 0x205f || c == 0x3000

/-- Runs of characters that satisfy `p` are dropped and the runs between them
are kept. -/
def fieldsBy (p : Nat → Bool) (rs : List Rune) : List (List Rune) :=
  (rs.splitBy fun a b => p a.code == p b.code).filter fun run =>
    run.any fun r => !p r.code

end Utf8

namespace Bytes

/-- The text without white space at either end. -/
def trim (s : Bytes) : Bytes :=
  let rs := (Utf8.runes s).dropWhile fun r => Utf8.isSpace r.code
  Utf8.bytes (rs.reverse.dropWhile fun r => Utf8.isSpace r.code).reverse

/-- The text in lower case as far as that gives ASCII letters, which two letters beyond ASCII
have: the capital I with a dot and the sign of the kelvin. -/
def lowerText (s : Bytes) : Bytes :=
  (Utf8.runes s).flatMap fun r =>
    if r.code = 0x130 then [ch 'i'] else if r.code = 0x212a then [ch 'k'] else lower r.raw

/-- The text in upper case as far as that gives ASCII letters, which two letters beyond ASCII
have: the small I without a dot and the long S. -/
def upperText (s : Bytes) : Bytes :=
  (Utf8.runes s).flatMap fun r =>
    if r.code = 0x131 then [ch 'I'] else if r.code = 0x17f then [ch 'S'] else upper r.raw

/-- The words of a text: the runs between its white space. -/
def fields (s : Bytes) : List Bytes :=
  (Utf8.fieldsBy Utf8.isSpace (Utf8.runes s)).map Utf8.bytes

/-- The text as a string, when it is valid UTF-8. -/
def toString? (s : Bytes) : Option String :=
  let rs := Utf8.runes s
  if rs.all Rune.valid then some (String.ofList (rs.map fun r => Char.ofNat r.code)) else none

/-- The text as a string, each invalid byte shown as the replacement character. -/
def toStringLossy (s : Bytes) : String :=
  String.ofList ((Utf8.runes s).map fun r => Char.ofNat r.code)

end Bytes

end Stencil
