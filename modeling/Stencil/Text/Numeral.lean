import Stencil.Text.Bytes

/-!
# Integers as text

An integer is written in base ten, or in another base that its first characters say: `0x`, `0o`
and `0b` in front, or a zero alone for base eight. Underscores may separate digits, and the
first digit from what says the base, but not stand anywhere else.

A numeral that is too large is told apart from a text that is none. It is read from the front,
so a text that is too large before it goes wrong counts as too large.
-/

namespace Stencil.Numeral

open Bytes

/-- Why a text is no integer of 64 bits. -/
inductive Flaw where
  /-- It writes no integer. -/
  | malformed
  /-- The integer is too large. -/
  | tooLarge
  deriving DecidableEq, Repr

/-- The wording of a flaw. -/
def Flaw.message : Flaw → Bytes
  | .malformed => "invalid syntax"
  | .tooLarge => "value out of range"

/-- The value of a digit in any base up to 36. -/
def digit? (c : UInt8) : Option Nat :=
  let l := lowerByte c
  if isDigit c then some (c.toNat - 48)
  else if ch 'a' ≤ l && l ≤ ch 'z' then some (l.toNat - 87)
  else none

/-- Whether every underscore of a text stands between two digits, or between a digit and what
says the base. -/
def separatesDigits (s : Bytes) : Bool :=
  let s := match s with
    | c :: r => if c = ch '-' || c = ch '+' then r else s
    | [] => []
  match s with
  | a :: b :: r =>
    let l := lowerByte b
    if a = ch '0' && (l = ch 'b' || l = ch 'o' || l = ch 'x') then go (l = ch 'x') true false r
    else go false false false s
  | _ => go false false false s
where
  /-- Whether the rest is right, given whether a digit or an underscore was the last. -/
  go (hex afterDigit afterUnderscore : Bool) : Bytes → Bool
    | [] => !afterUnderscore
    | c :: r =>
      if isDigit c || (hex && (hexValue? c).isSome) then go hex true false r
      else if c = ch '_' then afterDigit && go hex false true r
      else !afterUnderscore && go hex false false r

/-- The natural number of 64 bits that digits write in a base, after the value so far. -/
def digits (base : Nat) (underscores : Bool) : Nat → Bytes → Except Flaw Nat
  | v, [] => .ok v
  | v, c :: r =>
    if underscores && c = ch '_' then digits base underscores v r
    else
      match digit? c with
      | none => .error .malformed
      | some d =>
        if base ≤ d then .error .malformed
        else if Nat.pow 2 64 ≤ base * v + d then .error .tooLarge
        else digits base underscores (base * v + d) r

/-- **The natural number of 64 bits that a text writes**, in the base that it says. -/
def natural (s : Bytes) : Except Flaw Nat :=
  let inBase (base : Nat) (r : Bytes) : Except Flaw Nat :=
    match digits base true 0 r with
    | .ok v => if r.any (· = ch '_') && !separatesDigits s then .error .malformed else .ok v
    | .error f => .error f
  match s with
  | [] => .error .malformed
  | a :: r =>
    if a ≠ ch '0' then inBase 10 s
    else
      match r with
      | b :: c :: t =>
        let l := lowerByte b
        if l = ch 'b' then inBase 2 (c :: t)
        else if l = ch 'o' then inBase 8 (c :: t)
        else if l = ch 'x' then inBase 16 (c :: t)
        else inBase 8 r
      | _ => inBase 8 r

/-- The natural number of 64 bits that a text writes in a given base. -/
def naturalInBase (base : Nat) (s : Bytes) : Except Flaw Nat :=
  if s.isEmpty then .error .malformed else digits base false 0 s

/-- An integer of 64 bits, given how its digits are read. -/
def signed (read : Bytes → Except Flaw Nat) (s : Bytes) : Except Flaw Int :=
  let (negative, r) : Bool × Bytes := match s with
    | c :: t => if c = ch '-' then (true, t) else if c = ch '+' then (false, t) else (false, s)
    | [] => (false, [])
  match read r with
  | .error f => .error f
  | .ok n =>
    if negative then (if n ≤ Nat.pow 2 63 then .ok (-(n : Int)) else .error .tooLarge)
    else if n < Nat.pow 2 63 then .ok n
    else .error .tooLarge

/-- **The integer of 64 bits that a text writes**, in the base that it says. -/
def integer (s : Bytes) : Except Flaw Int := signed natural s

/-- The integer of 64 bits that a text writes in a given base. -/
def integerInBase (base : Nat) (s : Bytes) : Except Flaw Int := signed (naturalInBase base) s

end Stencil.Numeral
