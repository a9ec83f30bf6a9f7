import Stencil.Text.Bytes

/-!
# Base 64

Three bytes are written as four characters of six bits each. A rest of one or two bytes is
filled up with equals signs. Reading skips line breaks and nothing else.
-/

namespace Stencil.Base64

open Bytes

/-- The sign that fills up the last four characters. -/
abbrev padding : UInt8 := 0x3d

/-- The character of six bits. -/
def digit (n : Nat) : UInt8 :=
  if n < 26 then (65 + n).toUInt8
  else if n < 52 then (71 + n).toUInt8
  else if n < 62 then (n - 4).toUInt8
  else if n = 62 then ch '+'
  else slash

/-- The six bits of a character. -/
def value? (c : UInt8) : Option Nat :=
  if ch 'A' ≤ c && c ≤ ch 'Z' then some (c.toNat - 65)
  else if ch 'a' ≤ c && c ≤ ch 'z' then some (c.toNat - 71)
  else if isDigit c then some (c.toNat + 4)
  else if c = ch '+' then some 62
  else if c = slash then some 63
  else none

/-- **A text in base 64.** -/
def encode : Bytes → Bytes
  | [] => []
  | [a] => [digit (a.toNat / 4), digit (a.toNat % 4 * 16), padding, padding]
  | [a, b] =>
    [digit (a.toNat / 4), digit (a.toNat % 4 * 16 + b.toNat / 16), digit (b.toNat % 16 * 4),
      padding]
  | a :: b :: c :: s =>
    digit (a.toNat / 4) :: digit (a.toNat % 4 * 16 + b.toNat / 16)
      :: digit (b.toNat % 16 * 4 + c.toNat / 64) :: digit (c.toNat % 64) :: encode s

/-- The bytes of characters in groups of four. -/
def groups? : Bytes → Option Bytes
  | [] => some []
  | a :: b :: c :: d :: s =>
    match value? a, value? b with
    | some v, some w =>
      let first := (v * 4 + w / 16).toUInt8
      if c = padding then if d = padding && s.isEmpty then some [first] else none
      else
        match value? c with
        | none => none
        | some x =>
          let second := (w % 16 * 16 + x / 4).toUInt8
          if d = padding then if s.isEmpty then some [first, second] else none
          else
            match value? d with
            | none => none
            | some y => (groups? s).map fun r => first :: second :: (x % 4 * 64 + y).toUInt8 :: r
    | _, _ => none
  | _ => none

/-- **The text that is written in base 64**, if it is. -/
def decode? (s : Bytes) : Option Bytes :=
  groups? (s.filter fun c => c ≠ newline && c ≠ 0x0d)

end Stencil.Base64
