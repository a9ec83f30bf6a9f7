import Stencil.Text.Bytes

/-!
# Rounding to binary fractions

A binary fraction of a format is an integer of bounded size times a power of two. A
rational is rounded to the nearest one of a format, and of two that are equally near to
the one with the even significand. Very small numbers have a fixed step and so lose digits
gradually; a number that would round beyond the range of the format has no result.

Everything is exact arithmetic on rationals, so the laws of rounding can be stated about
`round?` without reference to machine numbers.
-/

namespace Stencil.Binary

/-- **A format of binary fractions.** -/
structure Format where
  /-- The bits of a significand. -/
  digits : Nat
  /-- The exponent of the smallest step. -/
  least : Int
  /-- All values are below two to this power. -/
  most : Nat
  deriving DecidableEq, Repr

/-- Fractions of 64 bits. -/
def double : Format := ⟨53, -1074, 1024⟩

/-- Fractions of 32 bits. -/
def single : Format := ⟨24, -149, 128⟩

/-- A power of two. -/
def pow2 (e : Int) : Rat :=
  if 0 ≤ e then ((Nat.pow 2 e.toNat : Nat) : Rat) else 1 / ((Nat.pow 2 (-e).toNat : Nat) : Rat)

/-- The nearest integer, a half going to the even one. -/
def nearest (q : Rat) : Int :=
  let f := q.floor
  let d := q - f
  if d < 1 / 2 then f else if d > 1 / 2 then f + 1 else if f % 2 = 0 then f else f + 1

/-- The exponent of the greatest power of two that is not above a positive rational. -/
def log2 (q : Rat) : Int :=
  let k : Int := (q.num.natAbs.log2 : Int) - q.den.log2
  if pow2 k ≤ q then k else k - 1

/-- The size of a rational. -/
def magnitude (q : Rat) : Rat := if q < 0 then -q else q

/-- The exponent of the step at a positive rational. -/
def stepAt (f : Format) (q : Rat) : Int := max (log2 q - (f.digits - 1)) f.least

/-- The significand of a positive rational, in steps. -/
def significand (f : Format) (q : Rat) : Int := nearest (q / pow2 (stepAt f q))

/-- **The nearest fraction of a format**; none beyond its range. -/
def round? (f : Format) (q : Rat) : Option Rat :=
  if q = 0 then some 0
  else
    let m := magnitude q
    let v : Rat := (significand f m : Rat) * pow2 (stepAt f m)
    if pow2 f.most ≤ v then none
    else some (if q < 0 then -v else v)

/-- The bits of a rational as a fraction of 64 bits. Counting significands from the
smallest step makes them run on from one exponent to the next. -/
def bits (q : Rat) : UInt64 :=
  if q = 0 then 0
  else
    let m := magnitude q
    let body := (stepAt double m - double.least).toNat * Nat.pow 2 52 + (significand double m).toNat
    UInt64.ofNat (if q < 0 then Nat.pow 2 63 + body else body)

end Stencil.Binary
