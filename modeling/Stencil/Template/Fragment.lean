import Stencil.Fault

/-!
# Code fragments inside markup

Expressions, conditions, loop clauses and declaration blocks are copied into the
generated code, so the reader has to find where each one ends without knowing
the language it is written in. Brackets are matched, and whatever stands inside
a string literal or a comment does not count.

A scan starts at the head of a text and says how many bytes it passed. When it
fails it also says what is wrong and where: `at_ n` is the line `n` bytes into the
scan, `construct` the line the enclosing construct started on.

* `literal` passes a string, character or raw literal;
* `group` passes a bracketed fragment, from its opening to its closing bracket;
* `header` passes a condition or clause up to the brace that opens its block;
* `chain` passes a name with its selectors, calls and indices.
-/

namespace Stencil.Fragment

open Bytes

/-- The place a scan reports a fault at. -/
inductive Place where
  /-- The line of the construct that is being read. -/
  | construct
  /-- The line reached after so many bytes of the scan. -/
  | at_ (n : Nat)
  deriving DecidableEq, Repr

/-- The place `n` bytes further into a longer scan. -/
def Place.after (n : Nat) : Place → Place
  | .construct => .construct
  | .at_ m => .at_ (n + m)

/-- **What a scan found**: how far it got, and what stopped it if it failed. -/
structure Scan where
  /-- The number of bytes passed. -/
  taken : Nat
  /-- What is wrong, and where. -/
  fault : Option (Place × Fault) := none
  deriving DecidableEq, Repr

/-- A scan continued behind `n` bytes that were passed before. -/
def Scan.after (n : Nat) (s : Scan) : Scan where
  taken := n + s.taken
  fault := s.fault.map fun f => (f.1.after n, f.2)

@[simp] theorem Scan.after_taken (n : Nat) (s : Scan) : (s.after n).taken = n + s.taken := rfl

/-- Whether a byte opens a literal. -/
def isQuote (c : UInt8) : Bool := c = dquote || c = squote || c = grave

/-- How much of a literal follows its opening quote `q`, and whether it is closed.
A backslash escapes the byte after it and a line feed ends the literal, except in
raw literals. -/
def literal (q : UInt8) : Bytes → Bool × Nat
  | [] => (false, 0)
  | c :: s =>
    if c = backslash ∧ q ≠ grave then
      match s with
      | [] => (false, 1)
      | _ :: s' => let (closed, n) := literal q s'; (closed, n + 2)
    else if c = newline ∧ q ≠ grave then (false, 0)
    else if c = q then (true, 1)
    else let (closed, n) := literal q s; (closed, n + 1)

/-- The bracket that closes an opening one. -/
def closerOf (c : UInt8) : UInt8 :=
  if c = ch '(' then ch ')' else if c = ch '[' then ch ']' else rbrace

/-- Whether a byte is an opening bracket. -/
def isOpener (c : UInt8) : Bool := c = ch '(' || c = ch '[' || c = lbrace

/-- A bracketed fragment from behind an opening bracket on: `closer` closes the
innermost open bracket and `outer` those around it. Closing brackets of another
kind are passed over. -/
def groupTail (what : Construct) (closer : UInt8) (outer : List UInt8) (s : Bytes) : Scan :=
  match s with
  | [] => ⟨0, some (.construct, .neverClosed what)⟩
  | c :: r =>
    if isQuote c then
      let (closed, n) := literal c r
      if closed then (groupTail what closer outer (r.drop n)).after (1 + n)
      else ⟨1 + n, some (.at_ 0, .unterminatedString)⟩
    else if c = slash ∧ r.head? = some slash then
      let n := (r.takeWhile (· ≠ newline)).length
      (groupTail what closer outer (r.drop n)).after (1 + n)
    else if c = slash ∧ r.head? = some (ch '*') then
      match indexOf? "*/" (r.drop 1) with
      | none => ⟨1 + r.length, some (.at_ 0, .unterminatedComment)⟩
      | some n => (groupTail what closer outer (r.drop (n + 3))).after (n + 4)
    else if isOpener c then (groupTail what (closerOf c) (closer :: outer) r).after 1
    else if c = closer then
      match outer with
      | [] => ⟨1, none⟩
      | next :: outer' => (groupTail what next outer' r).after 1
    else (groupTail what closer outer r).after 1
termination_by s.length

/-- **A bracketed fragment**, from its opening to its closing bracket. -/
def group (what : Construct) : Bytes → Scan
  | [] => ⟨0, some (.construct, .neverClosed what)⟩
  | c :: r =>
    let tail := groupTail what (closerOf c) [] r
    { (tail.after 1) with
      fault := tail.fault.map fun f =>
        (match f.1 with | .construct => .at_ 0 | .at_ n => .at_ (1 + n), f.2) }

@[simp] theorem group_taken_cons (what : Construct) (c : UInt8) (r : Bytes) :
    (group what (c :: r)).taken = 1 + (groupTail what (closerOf c) [] r).taken := rfl

/-- What a successful `group` scan of `s` encloses. -/
def enclosed (s : Bytes) (scan : Scan) : Bytes := (s.drop 1).take (scan.taken - 2)

/-- **A condition or clause** up to the brace that opens its block, which has to
stand on the same line. Literals and bracketed groups may contain braces. -/
def header (what : Construct) (s : Bytes) : Scan :=
  match s with
  | [] => ⟨0, some (.construct, .noBrace what)⟩
  | c :: r =>
    if c = lbrace then ⟨0, none⟩
    else if isQuote c then
      let (closed, n) := literal c r
      if closed then (header what (r.drop n)).after (1 + n)
      else ⟨1 + n, some (.at_ 0, .unterminatedString)⟩
    else if c = ch '(' ∨ c = ch '[' then
      let inner := groupTail what (closerOf c) [] r
      match inner.fault with
      | none => (header what (r.drop inner.taken)).after (1 + inner.taken)
      | some _ => group what (c :: r)
    else if c = newline then ⟨0, some (.construct, .noBraceOnLine what)⟩
    else (header what r).after 1
termination_by s.length

/-- The selectors, calls and indices behind a name. -/
def chainTail (s : Bytes) : Scan :=
  match s with
  | [] => ⟨0, none⟩
  | c :: r =>
    if c = ch '.' ∧ isIdentStart (r.headD 0) then
      let n := (r.takeWhile isIdentChar).length
      (chainTail (r.drop n)).after (1 + n)
    else if c = ch '(' ∨ c = ch '[' then
      let inner := groupTail .expression (closerOf c) [] r
      match inner.fault with
      | none => (chainTail (r.drop inner.taken)).after (1 + inner.taken)
      | some _ => group .expression (c :: r)
    else ⟨0, none⟩
termination_by s.length

/-- **A name with its selectors, calls and indices.** -/
def chain (s : Bytes) : Scan :=
  let n := (s.takeWhile isIdentChar).length
  (chainTail (s.drop n)).after n

end Stencil.Fragment
