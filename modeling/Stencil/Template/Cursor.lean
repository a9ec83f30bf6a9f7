import Stencil.Text.Utf8

/-!
# Reading positions

A `Cursor` is a position in a source: what is still to be read, the one-based
line it starts on, and the byte read last. Every reader moves it forward with
`advance`, the one place where lines are counted, so a cursor always agrees
with the text behind it; going back means keeping an earlier cursor.
-/

namespace Stencil

/-- **A position in a source.** -/
structure Cursor where
  /-- What is still to be read. -/
  rest : Bytes
  /-- The line the rest starts on. -/
  line : Nat
  /-- The byte before the position; zero at the start. -/
  before : UInt8
  deriving DecidableEq, Repr

namespace Cursor

/-- The position at the start of a source. -/
def ofSource (s : Bytes) : Cursor := ⟨s, 1, 0⟩

/-- The position `n` bytes further on, or the end if that is nearer. -/
def advance (n : Nat) (c : Cursor) : Cursor where
  rest := c.rest.drop n
  line := c.line + Bytes.newlines (c.rest.take n)
  before := (c.rest.take n).getLastD c.before

/-- The position after a run of bytes that satisfy `p`. -/
def skipWhile (p : UInt8 → Bool) (c : Cursor) : Cursor :=
  c.advance (c.rest.takeWhile p).length

/-- The byte `n` places ahead; zero beyond the end. -/
def peek (n : Nat) (c : Cursor) : UInt8 := (c.rest.drop n).headD 0

@[simp] theorem advance_rest (n : Nat) (c : Cursor) : (c.advance n).rest = c.rest.drop n := rfl

@[simp] theorem skipWhile_rest (p : UInt8 → Bool) (c : Cursor) :
    (c.skipWhile p).rest = c.rest.drop (c.rest.takeWhile p).length := rfl

theorem advance_le (n : Nat) (c : Cursor) : (c.advance n).rest.length ≤ c.rest.length := by
  simp

theorem skipWhile_le (p : UInt8 → Bool) (c : Cursor) :
    (c.skipWhile p).rest.length ≤ c.rest.length :=
  advance_le ..

/-- Moving on makes progress unless nothing is left. -/
theorem advance_lt {c : Cursor} {n : Nat} (h : c.rest ≠ []) (hn : 0 < n) :
    (c.advance n).rest.length < c.rest.length := by
  have := List.length_pos_iff.2 h
  rw [advance_rest, List.length_drop]
  omega

/-- **Moving on behind a skipped run makes progress**, unless nothing is left there. -/
theorem advance_skipWhile_lt {p : UInt8 → Bool} {c : Cursor} {n : Nat}
    (h : (c.skipWhile p).rest ≠ []) (hn : 0 < n) :
    ((c.skipWhile p).advance n).rest.length < c.rest.length :=
  Nat.lt_of_lt_of_le (advance_lt h hn) (skipWhile_le p c)

/-- The position on the next line, and the text up to it. -/
def restOfLine (c : Cursor) : Bytes × Cursor :=
  let text := c.rest.takeWhile (· ≠ Bytes.newline)
  (text, c.advance (text.length + 1))

end Cursor

end Stencil
