import Stencil.Text.Bytes

/-!
# Lines of generated code

Code is generated line by line, and each line remembers the input line it was made
for. A generated file is a list of `Line`s; its text is their texts in order, and its
source map pairs the position of a line in that list with the line's origin.

The position counts `Line`s. A line whose code was copied from the input can itself
contain line feeds, and then the text has more lines than the list.
-/

namespace Stencil

open Bytes

/-- **One line of generated code.** -/
structure Line where
  /-- The zero-based input line it was made for, if any. -/
  origin : Option Nat
  /-- How deep it is indented. -/
  indent : Nat
  /-- The code, without indentation. -/
  code : Bytes
  deriving DecidableEq, Repr

namespace Line

/-- The text of a line. An empty line is not indented. -/
def text (l : Line) : Bytes :=
  if l.code.isEmpty then [newline] else List.replicate l.indent 0x09 ++ l.code ++ [newline]

/-- The text of a file. -/
def textOf (ls : List Line) : Bytes := ls.flatMap text

end Line

/-- **Which input line each generated line was made for**: generated lines count from
one, input lines from zero, and lines made up by the generator are left out. -/
structure SourceMap where
  /-- The pairs of generated and input line, ascending. -/
  entries : List (Nat × Nat)
  deriving DecidableEq, Repr

namespace SourceMap

/-- The map of a file. -/
def ofLines (ls : List Line) : SourceMap :=
  ⟨ls.zipIdx.filterMap fun (l, i) => l.origin.map fun o => (i + 1, o)⟩

/-- The input line of a generated line. -/
def lookup (m : SourceMap) (generated : Nat) : Option Nat :=
  (m.entries.find? fun e => e.1 = generated).map Prod.snd

/-- How many lines are mapped. -/
def size (m : SourceMap) : Nat := m.entries.length

end SourceMap

end Stencil
