import Stencil.Text.Utf8

/-!
# Patterns with wildcards

In a pattern, a star stands for any number of characters other than slashes, a question
mark for one of them, and brackets for one character of a set. A backslash takes the
meaning from the character behind it. Every pattern stands for whole texts.
-/

namespace Stencil.Glob

open Bytes

/-- One part of a pattern. -/
inductive Part where
  /-- Any number of characters other than slashes. -/
  | many
  /-- A character other than a slash. -/
  | one
  /-- A character in or outside some ranges. -/
  | set (negated : Bool) (ranges : List (Nat × Nat))
  /-- A given character. -/
  | char (c : Nat)
  deriving DecidableEq, Repr

/-- A character of a set, which may stand behind a backslash. -/
def setChar? : List Nat → Option (Nat × List Nat)
  | [] => none
  | c :: s =>
    if c = 0x2d || c = 0x5d then none
    else if c = 0x5c then
      match s with
      | [] => none
      | d :: r => some (d, r)
    else some (c, s)

/-- The ranges of a set up to its closing bracket, with a bound on their number. -/
def ranges? : Nat → Bool → List Nat → Option (List (Nat × Nat) × List Nat)
  | 0, _, _ => none
  | _, _, [] => none
  | n + 1, any, c :: s =>
    if c = 0x5d && any then some ([], s)
    else
      match setChar? (c :: s) with
      | none => none
      | some (lo, r) =>
        let high : Option (Nat × List Nat) := match r with
          | d :: t => if d = 0x2d then setChar? t else some (lo, r)
          | [] => some (lo, r)
        match high with
        | none => none
        | some (hi, r) => (ranges? n true r).map fun (l, rest) => ((lo, hi) :: l, rest)

/-- **The parts of a pattern**, if it is well formed. -/
def parse? : Nat → List Nat → Option (List Part)
  | 0, _ => none
  | _, [] => some []
  | n + 1, c :: s =>
    if c = 0x2a then (parse? n s).map (.many :: ·)
    else if c = 0x3f then (parse? n s).map (.one :: ·)
    else if c = 0x5c then
      match s with
      | [] => none
      | d :: r => (parse? n r).map (.char d :: ·)
    else if c = 0x5b then
      let (negated, body) : Bool × List Nat := match s with
        | d :: r => if d = 0x5e then (true, r) else (false, s)
        | [] => (false, s)
      match ranges? (body.length + 1) false body with
      | none => none
      | some (ranges, rest) => (parse? n rest).map (.set negated ranges :: ·)
    else (parse? n s).map (.char c :: ·)

/-- Whether parts stand for a text. -/
def fits : List Part → List Nat → Bool
  | [], s => s.isEmpty
  | .many :: ps, [] => fits ps []
  | .many :: ps, c :: s => fits ps (c :: s) || (c ≠ 0x2f && fits (.many :: ps) s)
  | .one :: _, [] => false
  | .one :: ps, c :: s => c ≠ 0x2f && fits ps s
  | .set _ _ :: _, [] => false
  | .set negated ranges :: ps, c :: s =>
    (ranges.any fun (lo, hi) => lo ≤ c && c ≤ hi) ≠ negated && fits ps s
  | .char _ :: _, [] => false
  | .char d :: ps, c :: s => c = d && fits ps s
termination_by ps s => (ps.length, s.length)

/-- **Whether a pattern stands for a text**; nothing if the pattern is malformed. -/
def matches? (pattern text : Bytes) : Option Bool :=
  let codes (s : Bytes) := (Utf8.runes s).map Rune.code
  let p := codes pattern
  (parse? (p.length + 1) p).map fun parts => fits parts (codes text)

end Stencil.Glob
