import Stencil.Text.Bytes

/-!
# Decimal texts of binary fractions

A binary fraction of 64 bits is written with the fewest digits that read back as it, and
of the candidates of that length with the one nearest to it. `shortest` finds those digits
with exact arithmetic on naturals: the numbers that round to m · 2^q lie between the two
halfway points beside it, so it is enough to try, for one digit, two digits and so on, the
two neighbours of the number on the grid of that many digits.

Where the exponent is written and where the point goes is up to the format; the two that
are used here are `plain` and `general`.
-/

namespace Stencil.Decimal

open Bytes

/-- **A decimal number**: 0.d₁d₂… times a power of ten. -/
structure Digits where
  /-- Whether it is below zero. -/
  negative : Bool
  /-- The digits, none for zero. -/
  digits : Bytes
  /-- The power of ten. -/
  point : Int
  deriving DecidableEq, Repr

/-- A fraction of naturals. -/
structure Ratio where
  /-- Above the line. -/
  num : Nat
  /-- Below the line, not zero. -/
  den : Nat

namespace Ratio

/-- Whether a fraction is at most another. -/
def le (a b : Ratio) : Bool := a.num * b.den ≤ b.num * a.den

/-- Whether a fraction is below another. -/
def lt (a b : Ratio) : Bool := a.num * b.den < b.num * a.den

/-- A fraction times a power of two. -/
def scale2 (a : Ratio) (e : Int) : Ratio :=
  if 0 ≤ e then ⟨a.num * Nat.pow 2 e.toNat, a.den⟩ else ⟨a.num, a.den * Nat.pow 2 (-e).toNat⟩

/-- A fraction times a power of ten. -/
def scale10 (a : Ratio) (e : Int) : Ratio :=
  if 0 ≤ e then ⟨a.num * Nat.pow 10 e.toNat, a.den⟩ else ⟨a.num, a.den * Nat.pow 10 (-e).toNat⟩

/-- The distance of two fractions. -/
def distance (a b : Ratio) : Ratio :=
  ⟨(a.num * b.den - b.num * a.den) + (b.num * a.den - a.num * b.den), a.den * b.den⟩

end Ratio

/-- The power of ten just above a positive fraction: the least p, found by counting from
`start` at most `n` steps, with value < 10^p. -/
def magnitude (v : Ratio) : Nat → Int → Int
  | 0, p => p
  | n + 1, p => if v.lt (Ratio.scale10 ⟨1, 1⟩ p) then p else magnitude v n (p + 1)

/-- The candidate of `n` digits for a value below 10^p: the neighbour on the grid that
lies between the bounds, the nearer one if both do. -/
def candidate? (v lo hi : Ratio) (closed : Bool) (p : Int) (n : Nat) : Option Nat :=
  let unit : Int := p - n
  let scaled := v.scale10 (-unit)
  let below := scaled.num / scaled.den
  let inside (k : Nat) : Bool :=
    let x := Ratio.scale10 ⟨k, 1⟩ unit
    if closed then lo.le x && x.le hi else lo.lt x && x.lt hi
  match inside below, inside (below + 1) with
  | true, true =>
    let d := Ratio.distance ⟨below, 1⟩ scaled
    let d' := Ratio.distance ⟨below + 1, 1⟩ scaled
    if d'.lt d then some (below + 1) else some below
  | true, false => some below
  | false, true => some (below + 1)
  | false, false => none

/-- The first candidate of `n`, `n + 1`, … digits, at most `left` further ones. -/
def search (v lo hi : Ratio) (closed : Bool) (p : Int) : Nat → Nat → Nat × Nat
  | 0, n => ((candidate? v lo hi closed p n).getD 0, n)
  | left + 1, n =>
    match candidate? v lo hi closed p n with
    | some k => (k, n)
    | none => search v lo hi closed p left (n + 1)

/-- **The fewest digits of a fraction given by its bits**; none if it is not finite. -/
def shortest? (bits : UInt64) : Option Digits :=
  let negative : Bool := bits >>> 63 = 1
  let e := ((bits >>> 52) &&& 0x7ff).toNat
  let f := (bits &&& 0xfffffffffffff).toNat
  if e = 0x7ff then none
  else
    let m := if e = 0 then f else f + Nat.pow 2 52
    let q : Int := (if e = 0 then 1 else (e : Int)) - 1075
    if m = 0 then some ⟨negative, [], 0⟩
    else
      let v := Ratio.scale2 ⟨m, 1⟩ q
      let hi := Ratio.scale2 ⟨2 * m + 1, 1⟩ (q - 1)
      -- below a power of two the numbers lie twice as close
      let lo := if f = 0 && 1 < e then Ratio.scale2 ⟨4 * m - 1, 1⟩ (q - 2)
        else Ratio.scale2 ⟨2 * m - 1, 1⟩ (q - 1)
      let p := magnitude v 640 (-324)
      let (k, n) := search v lo hi (m % 2 = 0) p 17 1
      let ds := Bytes.ofNat k
      let kept := (ds.reverse.dropWhile (· = ch '0')).reverse
      some ⟨negative, kept, p - n + ds.length⟩

/-- The digits of a number that is written without an exponent. -/
def fixed (d : Digits) : Bytes :=
  if d.digits.isEmpty then "0"
  else if d.point ≤ 0 then "0." ++ List.replicate (-d.point).toNat (ch '0') ++ d.digits
  else
    let k := d.point.toNat
    if d.digits.length ≤ k then d.digits ++ List.replicate (k - d.digits.length) (ch '0')
    else d.digits.take k ++ "." ++ d.digits.drop k

/-- The digits of a number with an exponent of at least `width` digits. -/
def scientific (width : Nat) (d : Digits) : Bytes :=
  let e : Int := d.point - 1
  let frac : Bytes := if d.digits.length ≤ 1 then [] else "." ++ d.digits.drop 1
  let ds := Bytes.ofNat e.natAbs
  let sign : Bytes := if e < 0 then "-" else "+"
  d.digits.take 1 ++ frac ++ "e" ++ sign ++ List.replicate (width - ds.length) (ch '0') ++ ds

/-- The sign of a number. -/
def sign (d : Digits) : Bytes := if d.negative then "-" else []

/-- A number in the form that takes an exponent below 0.0001 and from a million on. -/
def general (d : Digits) : Bytes :=
  let e := d.point - 1
  let body : Bytes := if d.digits.isEmpty then "0"
    else if e < -4 || 6 ≤ e then scientific 2 d
    else fixed d
  sign d ++ body

/-- A number as JSON writes it: with an exponent only below 10^-6 and from 10^21 on. -/
def plain (d : Digits) : Bytes :=
  let e := d.point - 1
  let body : Bytes := if d.digits.isEmpty then "0"
    else if e < -6 || 21 ≤ e then scientific 1 d
    else fixed d
  sign d ++ body

/-- **The fraction that digits write**, with a sign, a point and an exponent as far as there
are any, by its bits. -/
def toBits (s : Bytes) : UInt64 :=
  let negative := s.head? = some (ch '-')
  let body := s.filter fun c => c ≠ ch '+'
  let body := if negative then body.drop 1 else body
  let (mantissa, e) := body.span fun c => lowerByte c ≠ ch 'e'
  let (whole, fraction) := cut (ch '.') mantissa
  let exponent : Int := match e.drop 1 with
    | [] => 0
    | c :: r => if c = ch '-' then -(digitsValue r : Int) else digitsValue (c :: r)
  let shifted := exponent - fraction.length
  let digits := digitsValue (whole ++ fraction)
  let v := Float.ofScientific digits (decide (shifted < 0)) shifted.natAbs
  (if negative then -v else v).toBits

end Stencil.Decimal
