import Stencil.Source.Index
import Stencil.Template.Reader

/-!
# Splicing included units

An include is replaced by the body of the unit it names. A `Piece` is a markup tree
with that done: an include has become the pieces of its unit, or the reason why it
could not be spliced. Generating code from pieces needs no further look at the batch.

Paths are relative to the directory of the unit that contains the include. A unit
that includes itself, directly or along a chain, is a fault, and the chain is not
followed further.

The chain of targets being spliced never holds a target twice, and every target on it
names a component of the batch. A target is a directory the chain has reached joined with
a path written in some unit, and such a directory is not much longer than the path of the
unit reached. So there are only so many targets, and a bound on the length of the chain
that depends on the batch alone is never reached.
-/

namespace Stencil

open Bytes

mutual

/-- **A piece of markup with its includes resolved.** -/
inductive Piece where
  /-- Literal text. -/
  | text (value : Bytes) (line : Nat)
  /-- An expression whose value is shown. -/
  | expr (code : Bytes) (line : Nat)
  /-- An included unit. -/
  | spliced (line : Nat) (body : List Piece)
  /-- An include that cannot be spliced, and why. -/
  | broken (line : Nat) (fault : Fault)
  /-- A loop. -/
  | loop (clause : Bytes) (body : List Piece) (line endLine : Nat)
  /-- A conditional. -/
  | choice (branches : List PieceBranch) (otherwise : List Piece) (elseLine endLine : Nat)
  /-- An element or component tag. -/
  | element (tag : Bytes) (attrs : List Attr) (children : List Piece) (selfClosing : Bool)
      (line endLine : Nat)

/-- One branch of a conditional. -/
inductive PieceBranch where
  /-- A condition and what it guards. -/
  | mk (cond : Bytes) (body : List Piece) (line : Nat)

end

mutual

/-- A tree with every include replaced as `f` says, given its path and line. -/
def Node.pieces (f : Bytes → Nat → Piece) : Node → Piece
  | .text value line => .text value line
  | .expr code line => .expr code line
  | .splice path line => f path line
  | .loop clause body line endLine => .loop clause (Node.piecesAll f body) line endLine
  | .choice branches otherwise elseLine endLine =>
    .choice (Branch.piecesAll f branches) (Node.piecesAll f otherwise) elseLine endLine
  | .element tag attrs children selfClosing line endLine =>
    .element tag attrs (Node.piecesAll f children) selfClosing line endLine

/-- A branch with every include replaced. -/
def Branch.pieces (f : Bytes → Nat → Piece) : Branch → PieceBranch
  | .mk cond body line => .mk cond (Node.piecesAll f body) line

/-- A list of trees with every include replaced. -/
def Node.piecesAll (f : Bytes → Nat → Piece) : List Node → List Piece
  | [] => []
  | n :: ns => n.pieces f :: Node.piecesAll f ns

/-- A list of branches with every include replaced. -/
def Branch.piecesAll (f : Bytes → Nat → Piece) : List Branch → List PieceBranch
  | [] => []
  | b :: bs => b.pieces f :: Branch.piecesAll f bs

end

/-- The path an include names, seen from the directory of the unit it stands in. -/
def includeTarget (dir path : Bytes) : Bytes :=
  SourceUnit.normalizePath (if Path.isAbs path then path else Path.joinTwo dir path)

namespace Splice

/-- Why the include of `target` cannot be spliced, if it cannot: `self` is the unit
that code is generated for and `chain` the targets being spliced, outermost first. -/
def obstacle? (ix : UnitIndex) (self : Bytes) (chain : List Bytes) (target : Bytes) :
    Option Fault :=
  if (ix.component? target).isNone then some (.includeNotFound target)
  else if target = self then some (.includesItself target)
  else if chain.contains target then some (.includeCycle (chain ++ [target]))
  else none

/-- The directory that paths are relative to inside the innermost unit being
spliced. -/
def currentDir (selfDir : Bytes) (chain : List Bytes) : Bytes :=
  match chain.getLast? with
  | none => selfDir
  | some target => Path.dir target

/-- The piece an include becomes, for chains of at most `depth` further targets. -/
def includePiece (ix : UnitIndex) (self : Bytes) : Nat → List Bytes → Bytes → Nat → Piece
  | 0, chain, _, line => .broken line (.includeCycle chain)
  | depth + 1, chain, path, line =>
    let target := includeTarget (currentDir (Path.dir self) chain) path
    match obstacle? ix self chain target, ix.component? target with
    | none, some u =>
      .spliced line
        (Node.piecesAll (includePiece ix self depth (chain ++ [target]))
          (Document.read u.text).1.body)
    | some fault, _ => .broken line fault
    | none, none => .broken line (.includeNotFound target)

/-- How much there is to read in the units of a batch and their paths, and in a unit that
code is generated for. -/
def extent (ix : UnitIndex) (self input : Bytes) : Nat :=
  (ix.units.map fun u => u.path.length + u.text.length).foldr (· + ·) 0 + self.length
    + input.length

/-- More than the number of targets that any chain of includes can hold: a target is no
longer than nine times the extent and nine bytes. -/
def depthBound (ix : UnitIndex) (self input : Bytes) : Nat :=
  Nat.pow 256 (9 * extent ix self input + 10)

/-- **The body of a unit with all its includes spliced in.** -/
def expand (ix : UnitIndex) (self input : Bytes) (body : List Node) : List Piece :=
  Node.piecesAll (includePiece ix self (depthBound ix self input) []) body

end Splice

mutual

/-- The faults of the includes written in a tree, found without splicing anything. -/
def Node.includeFindings (ix : UnitIndex) (self : Bytes) : Node → List Finding
  | .text .. | .expr .. => []
  | .splice path line =>
    let target := includeTarget (Path.dir self) path
    match Splice.obstacle? ix self [] target with
    | none => []
    | some fault => [⟨line, fault⟩]
  | .loop _ body _ _ => Node.includeFindingsAll ix self body
  | .choice branches otherwise _ _ =>
    Branch.includeFindingsAll ix self branches ++ Node.includeFindingsAll ix self otherwise
  | .element _ _ children _ _ _ => Node.includeFindingsAll ix self children

/-- The include faults of a branch. -/
def Branch.includeFindings (ix : UnitIndex) (self : Bytes) : Branch → List Finding
  | .mk _ body _ => Node.includeFindingsAll ix self body

/-- The include faults of a list of trees. -/
def Node.includeFindingsAll (ix : UnitIndex) (self : Bytes) : List Node → List Finding
  | [] => []
  | n :: ns => n.includeFindings ix self ++ Node.includeFindingsAll ix self ns

/-- The include faults of a list of branches. -/
def Branch.includeFindingsAll (ix : UnitIndex) (self : Bytes) : List Branch → List Finding
  | [] => []
  | b :: bs => b.includeFindings ix self ++ Branch.includeFindingsAll ix self bs

end

end Stencil
