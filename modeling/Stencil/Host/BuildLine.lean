import Stencil.Host.Identifier
import Stencil.Text.Utf8

/-!
# The language version a file asks for

A comment before the package clause can say under which conditions a file is built: tags
joined by `&&`, `||` and `!`. A tag such as `go1.17` asks for a version of the language at
least, and the whole condition implies one, which then holds for the file.
-/

namespace Stencil.Host

open Bytes

/-- **A condition on tags.** -/
inductive BuildCondition where
  /-- A tag. -/
  | tag (name : Bytes)
  /-- The opposite. -/
  | not (x : BuildCondition)
  /-- Both. -/
  | and (x y : BuildCondition)
  /-- One of two. -/
  | or (x y : BuildCondition)
  deriving DecidableEq, Repr

namespace BuildCondition

/-- A part of a written condition. -/
inductive Part where
  /-- An operator or a parenthesis. -/
  | sign (text : Bytes)
  /-- A tag. -/
  | tag (name : Bytes)
  deriving DecidableEq, Repr

/-- Whether a character can be part of a tag. -/
def isTagChar (c : Nat) : Bool := isLetter c || CharClass.isDigit c || c = 0x2e

/-- The parts of a written condition, `n` at most; none if something in it is no part. -/
def parts? : Nat → Bytes → Option (List Part)
  | 0, _ => none
  | n + 1, s =>
    match s.dropWhile fun c => c = 0x20 || c = 0x09 with
    | [] => some []
    | c :: r =>
      if c = ch '(' || c = ch ')' || c = ch '!' then (parts? n r).map (.sign [c] :: ·)
      else if c = ch '&' || c = ch '|' then
        match r with
        | d :: r => if d = c then (parts? n r).map (.sign [c, c] :: ·) else none
        | [] => none
      else
        let tag := Utf8.bytes ((Utf8.runes (c :: r)).takeWhile fun u => u.valid && isTagChar u.code)
        if tag.isEmpty then none
        else (parts? n ((c :: r).drop tag.length)).map (.tag tag :: ·)

mutual

/-- Conditions joined by `||` at the front of parts, and what follows them. -/
def or? : Nat → List Part → Option (BuildCondition × List Part)
  | 0, _ => none
  | n + 1, ps => do
    let (x, ps) ← and? n ps
    orTail? n x ps

/-- Further conditions behind `||`. -/
def orTail? : Nat → BuildCondition → List Part → Option (BuildCondition × List Part)
  | 0, _, _ => none
  | n + 1, x, ps =>
    match ps with
    | .sign s :: r =>
      if s = "||" then do
        let (y, r) ← and? n r
        orTail? n (.or x y) r
      else some (x, ps)
    | ps => some (x, ps)

/-- Conditions joined by `&&`, and what follows them. -/
def and? : Nat → List Part → Option (BuildCondition × List Part)
  | 0, _ => none
  | n + 1, ps => do
    let (x, ps) ← not? n ps
    andTail? n x ps

/-- Further conditions behind `&&`. -/
def andTail? : Nat → BuildCondition → List Part → Option (BuildCondition × List Part)
  | 0, _, _ => none
  | n + 1, x, ps =>
    match ps with
    | .sign s :: r =>
      if s = "&&" then do
        let (y, r) ← not? n r
        andTail? n (.and x y) r
      else some (x, ps)
    | ps => some (x, ps)

/-- A condition that may be negated once. -/
def not? : Nat → List Part → Option (BuildCondition × List Part)
  | 0, _ => none
  | n + 1, ps =>
    match ps with
    | .sign s :: r =>
      if s = "!" then (atom? n r).map fun (x, r) => (.not x, r) else atom? n ps
    | ps => atom? n ps

/-- A tag, or a condition in parentheses. -/
def atom? : Nat → List Part → Option (BuildCondition × List Part)
  | 0, _ => none
  | n + 1, ps =>
    match ps with
    | .tag t :: r => some (.tag t, r)
    | .sign s :: r =>
      if s = "(" then
        match or? n r with
        | some (x, .sign c :: r) => if c = ")" then some (x, r) else none
        | _ => none
      else none
    | [] => none

end

/-- **The condition that a text writes**, if it writes one. -/
def parse? (s : Bytes) : Option BuildCondition :=
  match parts? (s.length + 1) s with
  | none => none
  | some ps =>
    match or? (8 * ps.length + 8) ps with
    | some (x, []) => some x
    | _ => none

/-- The higher of two versions that both hold. -/
def both : Option Nat → Option Nat → Option Nat
  | some a, some b => some (max a b)
  | some a, none => some a
  | none, b => b

/-- The lower of two versions of which one holds. -/
def either : Option Nat → Option Nat → Option Nat
  | some a, some b => some (min a b)
  | _, _ => none

/-- The minor version that a condition implies, or that its opposite does. -/
def version? (negated : Bool) : BuildCondition → Option Nat
  | .tag t =>
    if negated then none
    else if t = "go1" then some 0
    else (indexOf? "go1." t).bind fun i => toNat? (t.drop (i + 4))
  | .not x => version? (!negated) x
  | .and x y =>
    (if negated then either else both) (version? negated x) (version? negated y)
  | .or x y =>
    (if negated then both else either) (version? negated x) (version? negated y)

/-- What a condition for building a file starts with. -/
def opening : Bytes := "//go:build"

/-- The condition a comment holds, if it holds one. -/
def ofComment? (comment : Bytes) : Option BuildCondition :=
  match dropPrefix? opening (trim comment) with
  | none => none
  | some rest =>
    let text := trim rest
    if text.length = rest.length && !rest.isEmpty then none else parse? text

/-- The least version of the language that a file can be limited to. -/
def leastVersion : Nat := 21

/-- **The minor version of the language that the comments before a package clause set.**
The last condition among them decides, and no file is set below a certain version. -/
def versionOf (comments : List Bytes) : Option Nat :=
  let last := (comments.reverse.findSome? fun c => ofComment? c).bind (version? false)
  last.map (max leastVersion)

end BuildCondition

end Stencil.Host
