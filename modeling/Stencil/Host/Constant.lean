import Stencil.Host.Token
import Stencil.Text.Binary
import Stencil.Text.Decimal

/-!
# Constants of the host language

Constant expressions are evaluated exactly: numbers are rationals of any size, and only
the type a constant gets at the end decides whether it fits. A constant is shown in
messages as a literal: long texts are cut, and fractions are shown with six digits, or
with as many as they need if six make them look like integers.
-/

namespace Stencil.Host

open Bytes

/-- A part of a complex number. -/
structure Part where
  /-- The number. -/
  value : Rat
  /-- Whether it came from integers only. -/
  whole : Bool
  deriving DecidableEq, Inhabited

/-- **The value of a constant.** -/
inductive Const where
  /-- A value that is not known, because something before it is wrong. -/
  | unknown
  /-- A truth value. -/
  | bool (b : Bool)
  /-- A text. -/
  | text (s : Bytes)
  /-- A number; `whole` if it came from integers only. -/
  | number (q : Rat) (whole : Bool)
  /-- A complex number. -/
  | complex (re im : Part)
  deriving DecidableEq, Inhabited

namespace Const

/-- The parts of a number. -/
def parts? : Const → Option (Part × Part)
  | .number q w => some (⟨q, w⟩, ⟨0, true⟩)
  | .complex re im => some (re, im)
  | _ => none

/-- The real number a constant is, if it is one. -/
def real? (c : Const) : Option Rat :=
  match c.parts? with
  | some (re, im) => if im.value = 0 then some re.value else none
  | none => none

/-- The integer a constant is, if it is one. -/
def int? (c : Const) : Option Int :=
  match c.real? with
  | some q => if q.den = 1 then some q.num else none
  | none => none

/-- Whether a constant is the number zero. -/
def isZero (c : Const) : Bool := c.real? = some 0

/-- The constant in the form in which equal numbers are equal. -/
def key (c : Const) : Const :=
  match c.parts? with
  | some (re, im) =>
    if im.value = 0 then .number re.value true
    else .complex ⟨re.value, true⟩ ⟨im.value, true⟩
  | none => c

/-- A constant integer. -/
def ofInt (n : Int) : Const := .number n true

/-! ## Reading literals -/

/-- The digits of a literal, without the underscores between them. -/
def clean (s : Bytes) : Bytes := s.filter (· ≠ ch '_')

/-- The value of digits in a base. -/
def digits (base : Nat) (s : Bytes) : Nat :=
  s.foldl (fun n c => base * n + (hexValue? c).getD 0) 0

/-- The integer a literal writes. -/
def ofIntLiteral (s : Bytes) : Const :=
  let s := clean s
  match s with
  | a :: b :: r =>
    if a = ch '0' then
      let l := lowerByte b
      if l = ch 'x' then ofInt (digits 16 r)
      else if l = ch 'o' then ofInt (digits 8 r)
      else if l = ch 'b' then ofInt (digits 2 r)
      else ofInt (digits 8 (b :: r))
    else ofInt (digits 10 s)
  | s => ofInt (digits 10 s)

/-- A power of a base with an integer exponent. -/
def scale (base : Nat) (e : Int) : Rat :=
  if 0 ≤ e then ((Nat.pow base e.toNat : Nat) : Rat)
  else 1 / ((Nat.pow base (-e).toNat : Nat) : Rat)

/-- The number that digits with a point and an exponent write. The digits have one base,
the exponent, behind its mark, another. -/
def realDigits (base expBase : Nat) (mark : UInt8) (s : Bytes) : Option Rat :=
  let mantissa := s.takeWhile (· ≠ mark)
  let exponent := (s.dropWhile (· ≠ mark)).drop 1
  let (whole, frac) := cut (ch '.') mantissa
  let body : Rat := (digits base (whole ++ frac) : Rat) / ((Nat.pow base frac.length : Nat) : Rat)
  let e := digits 10 (exponent.filter isDigit)
  if 50000 < e then none
  else some (body * scale expBase (if startsWith exponent "-" then -(e : Int) else e))

/-- The number a literal with a fraction or an exponent writes. A leading zero alone does
not change the base. -/
def realLiteral (s : Bytes) : Option Rat :=
  let s := (clean s).map lowerByte
  if startsWith s "0x" then realDigits 16 2 (ch 'p') (s.drop 2)
  else if startsWith s "0o" then some (digits 8 (s.drop 2) : Rat)
  else if startsWith s "0b" then some (digits 2 (s.drop 2) : Rat)
  else realDigits 10 10 (ch 'e') s

/-- The value of a literal. -/
def ofLiteral (kind : Tok) (s : Bytes) : Const :=
  match kind with
  | .int => ofIntLiteral s
  | .float =>
    match realLiteral s with
    | some q => .number q false
    | none => .unknown
  | .imag =>
    match realLiteral s.dropLast with
    | some q => .complex ⟨0, true⟩ ⟨q, false⟩
    | none => .unknown
  | .string =>
    match Quoted.unquote? s with
    | some t => .text t
    | none => .unknown
  | .char =>
    match Quoted.unquote? s with
    | some t =>
      let body := (s.drop 1).dropLast
      -- an escaped byte is its own number, everything else is a character
      match t with
      | [b] => if startsWith body "\\" || b < 0x80 then ofInt b.toNat else .unknown
      | t => ofInt (((Utf8.next? t).map Rune.code).getD 0)
    | none => .unknown
  | _ => .unknown

/-! ## Showing -/

/-- The decimal exponent of a positive rational, from its binary one: the guess is off by
one at most. -/
def exponent (q : Rat) : Int :=
  let b := Binary.log2 q
  -- the logarithm of two to the base ten lies just above the fraction
  let guess := (b * 30102999566398 / 100000000000000 : Int)
  if scale 10 (guess + 1) ≤ q then guess + 1 else if q < scale 10 guess then guess - 1 else guess

/-- The digits without the zeros at their end. -/
def dropZeros (s : Bytes) : Bytes := (s.reverse.dropWhile (· = ch '0')).reverse

/-- The digits of a positive rational, six at most, and the exponent of the first. -/
def sixDigits (q : Rat) : Bytes × Int :=
  let e := exponent q
  let n := Binary.nearest (q * scale 10 (5 - e))
  if n ≥ 1000000 then (dropZeros (Bytes.ofInt (n / 10)), e + 1)
  else (dropZeros (Bytes.ofInt n), e)

/-- A number with six digits, as it is printed: with an exponent if it is very small or
has more than six digits before the point. -/
def renderSix (q : Rat) : Bytes :=
  let (ds, e) := sixDigits (Binary.magnitude q)
  Decimal.general ⟨q < 0, ds, e + 1⟩

/-- A fraction as messages show it. A number that is no integer but looks like one with
six digits gets as many as it needs. -/
def renderNumber (q : Rat) : Bytes :=
  if q = 0 then "0"
  else
    match Binary.round? Binary.double q with
    | none => renderSix q
    | some v =>
      if v = 0 then renderSix q
      else
        let six := renderSix v
        if q.den ≠ 1 && !six.any (· = ch '.') then
          match Decimal.shortest? (Binary.bits v) with
          | some d => Decimal.general d
          | none => six
        else six

/-- A part of a complex number as messages show it. -/
def renderPart (p : Part) : Bytes :=
  if p.whole then Bytes.ofInt p.value.floor else renderNumber p.value

/-- **A constant as messages show it.** -/
def render : Const → Bytes
  | .unknown => "unknown"
  | .bool b => if b then "true" else "false"
  | .text s =>
    let q := Quoted.quote s
    let rs := Utf8.runes q
    if 72 < rs.length then Utf8.bytes (rs.take 69) ++ "..." else q
  | .number q whole =>
    if whole then Bytes.ofInt q.floor else renderNumber q
  | .complex re im => "(" ++ renderPart re ++ " + " ++ renderPart im ++ "i)"

/-! ## Operations -/

/-- The bits of an integer operation on the two's complement of any width, by the rule
for a single pair of bits. Both numbers have fewer than `n` bits. -/
def bitwise (f : Bool → Bool → Bool) : Nat → Int → Int → Int
  | 0, a, b => if f (a < 0) (b < 0) then -1 else 0
  | n + 1, a, b =>
    let low := if f (a % 2 = 1) (b % 2 = 1) then 1 else 0
    2 * bitwise f n (a / 2) (b / 2) + low

/-- The sum, difference, product or quotient of complex numbers. -/
def complexBinary (op : Bytes) (a b : Part × Part) : Const :=
  let whole := a.1.whole && b.1.whole && a.2.whole && b.2.whole
  let (p, q) := (a.1.value, a.2.value)
  let (s, t) := (b.1.value, b.2.value)
  if op = "+" then
    .complex ⟨p + s, a.1.whole && b.1.whole⟩ ⟨q + t, a.2.whole && b.2.whole⟩
  else if op = "-" then
    .complex ⟨p - s, a.1.whole && b.1.whole⟩ ⟨q - t, a.2.whole && b.2.whole⟩
  else if op = "*" then .complex ⟨p * s - q * t, whole⟩ ⟨q * s + p * t, whole⟩
  else if op = "/" then
    let n := s * s + t * t
    if n = 0 then .unknown
    else .complex ⟨(p * s + q * t) / n, false⟩ ⟨(q * s - p * t) / n, false⟩
  else .unknown

/-- The value of a binary operation on two constants. Division of integers rounds toward
zero. -/
def binary (op : Bytes) (intDivision : Bool) (x y : Const) : Const :=
  match x, y with
  | .bool a, .bool b =>
    if op = "&&" then .bool (a && b) else if op = "||" then .bool (a || b) else .unknown
  | .text a, .text b => if op = "+" then .text (a ++ b) else .unknown
  | .number a wa, .number b wb =>
    let whole := wa && wb
    let ints (f : Int → Int → Int) : Const := ofInt (f a.floor b.floor)
    let bits (f : Bool → Bool → Bool) : Const := ints (bitwise f 512)
    if op = "+" then .number (a + b) whole
    else if op = "-" then .number (a - b) whole
    else if op = "*" then .number (a * b) whole
    else if op = "/" then
      if b = 0 then .unknown
      else if intDivision then ints Int.tdiv
      else .number (a / b) false
    else if op = "%" then if b = 0 then .unknown else ints Int.tmod
    else if op = "&" then bits (· && ·)
    else if op = "|" then bits (· || ·)
    else if op = "^" then bits (· != ·)
    else if op = "&^" then bits (fun p q => p && !q)
    else .unknown
  | x, y =>
    match x.parts?, y.parts? with
    | some a, some b => complexBinary op a b
    | _, _ => .unknown

/-- Whether a comparison of two constants holds. -/
def compare (op : Bytes) (x y : Const) : Const :=
  let decide (lt eq : Bool) : Const :=
    if op = "==" then .bool eq
    else if op = "!=" then .bool !eq
    else if op = "<" then .bool lt
    else if op = "<=" then .bool (lt || eq)
    else if op = ">" then .bool (!lt && !eq)
    else if op = ">=" then .bool !lt
    else .unknown
  match x, y with
  | .bool a, .bool b => decide false (a == b)
  | .text a, .text b => decide (Bytes.le a b && a != b) (a == b)
  | .number a _, .number b _ => decide (a < b) (a = b)
  | x, y =>
    match x.parts?, y.parts? with
    | some _, some _ => decide false (x.key = y.key)
    | _, _ => .unknown

/-- The value of a unary operation. Complementing an unsigned number keeps its width. -/
def unary (op : Bytes) (unsignedBits : Nat) (x : Const) : Const :=
  match x with
  | .bool b => if op = "!" then .bool !b else .unknown
  | .number q w =>
    if op = "+" then x
    else if op = "-" then .number (-q) w
    else if op = "^" then
      if unsignedBits = 0 then ofInt (-q.floor - 1)
      else ofInt ((Nat.pow 2 unsignedBits : Nat) - 1 - q.floor)
    else .unknown
  | .complex re im =>
    if op = "+" then x
    else if op = "-" then .complex { re with value := -re.value } { im with value := -im.value }
    else .unknown
  | _ => .unknown

/-- A constant shifted to the left, or to the right. -/
def shift (left : Bool) (x : Const) (by_ : Nat) : Const :=
  match x.int? with
  | some n => ofInt (if left then n * (Nat.pow 2 by_ : Nat) else n / (Nat.pow 2 by_ : Nat))
  | none => .unknown

end Const

end Stencil.Host
