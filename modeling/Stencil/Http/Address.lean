import Stencil.Text.Bytes

/-!
# Addresses of hosts

The host of a URL can be an address in brackets: eight groups of hexadecimal digits, of which
one run of zeros may be left out and the last two may be written as four numbers with points.
A zone may follow behind a percent sign.
-/

namespace Stencil.Address

open Bytes

/-- Whether a text is a number below 256 without a needless zero. -/
def isOctet (s : Bytes) : Bool :=
  1 ≤ s.length && s.length ≤ 3 && s.all isDigit && digitsValue s < 256
    && (s.length = 1 || s.head? ≠ some (ch '0'))

/-- Whether a text is four numbers with points between them. -/
def isShort (s : Bytes) : Bool :=
  let parts := splitOn (ch '.') s
  parts.length = 4 && parts.all isOctet

/-- Whether a text is a group of digits. -/
def isGroup (s : Bytes) : Bool :=
  1 ≤ s.length && s.length ≤ 4 && s.all fun c => (hexValue? c).isSome

/-- The number of groups that a text writes with colons between them, if it writes any. The last
two may be four numbers with points, where that is allowed. -/
def groups? (shortEnd : Bool) (s : Bytes) : Option Nat :=
  if s.isEmpty then some 0
  else
    let parts := splitOn (ch ':') s
    match parts.getLast? with
    | none => none
    | some last =>
      if !parts.dropLast.all isGroup then none
      else if isGroup last then some parts.length
      else if shortEnd && isShort last then some (parts.length + 1)
      else none

/-- **Whether a text is an address of eight groups**, with or without a zone. -/
def isLong (s : Bytes) : Bool :=
  let (address, zone) := cut (ch '%') s
  let zoneOk := !s.any (· = ch '%') || !zone.isEmpty
  let groupsOk := match indexOf? "::" address with
    | none => groups? true address = some 8
    | some i =>
      match groups? false (address.take i), groups? true (address.drop (i + 2)) with
      | some a, some b => a + b ≤ 7
      | _, _ => false
  zoneOk && groupsOk

end Stencil.Address
