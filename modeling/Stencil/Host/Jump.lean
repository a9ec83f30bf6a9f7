import Stencil.Host.Tree

/-!
# Labels and jumps

A label belongs to the whole body of a function, and has to be declared once and used.
Leaving or repeating a statement by its label is possible inside that statement only. A
jump to a label may leave blocks but not enter them, and must not skip the declaration of
a variable that is known at the label.

The walk goes through the body once. A jump to a label that is not known yet is kept as a
jump forward: the label that comes later in the same block, or in a block around it,
resolves it. What is left at the end enters a block, or has no label at all.
-/

namespace Stencil.Host

open Bytes

/-- **What is wrong with a label.** -/
inductive LabelFault where
  /-- It is declared a second time. -/
  | redeclared (label first : Name)
  /-- A statement that is to be left or repeated is not one around the jump, or not of
  that kind. -/
  | misplaced (word : Bytes) (label : Name)
  /-- A jump skips the declaration of a variable at a place. -/
  | skipsVariable (label : Name) (decl : Place)
  /-- A jump enters a block. -/
  | entersBlock (label : Name)
  /-- There is no such label. -/
  | undeclared (label : Name)
  /-- No jump needs it. -/
  | unused (label : Name)
  deriving DecidableEq, Repr

/-- A statement with a label, as far as jumps are concerned. -/
structure JumpTarget where
  /-- The label. -/
  name : Bytes
  /-- Whether the statement can be left. -/
  canLeave : Bool
  /-- Whether the statement can be repeated. -/
  canRepeat : Bool
  deriving DecidableEq, Repr

/-- A statement under a label. -/
def JumpTarget.of (name : Bytes) : Stmt → JumpTarget
  | .switch .. | .typeSwitch .. | .select .. => ⟨name, true, false⟩
  | .loop .. | .range .. => ⟨name, true, true⟩
  | _ => ⟨name, false, false⟩

/-- Whether a jump of a kind fits the statement. -/
def JumpTarget.fits (t : JumpTarget) (word : Bytes) : Bool :=
  if word = "break" then t.canLeave else t.canRepeat

/-- **What is known at one place of a body.** The first two parts belong to the body, the
others to the block the place is in. -/
structure JumpState where
  /-- The labels so far, and whether each is used. -/
  declared : List (Name × Bool) := []
  /-- The faults so far, latest first. -/
  faults : List LabelFault := []
  /-- The labels of this block and the blocks around it. -/
  visible : List Bytes := []
  /-- The last statement with a label in this block. -/
  last : Option JumpTarget := none
  /-- The jumps that have found no label yet. -/
  forward : List Name := []
  /-- The place of the last declaration of a variable in this block. -/
  lastDecl : Option Place := none
  /-- The jumps that are before that declaration. -/
  skipping : List Name := []

namespace JumpState

/-- Notes a fault. -/
def fault (st : JumpState) (f : LabelFault) : JumpState := { st with faults := f :: st.faults }

/-- Marks a label as used. -/
def use (st : JumpState) (name : Bytes) : JumpState :=
  { st with declared := st.declared.map fun (n, u) => (n, u || n.text = name) }

/-- Passes the declaration of a variable. -/
def passVariable (st : JumpState) (decl : Place) : JumpState :=
  { st with lastDecl := some decl, skipping := st.forward }

/-- Passes a label: jumps forward to it are resolved. -/
def passLabel (st : JumpState) (n : Name) (s : Stmt) : JumpState :=
  if n.text = "_" then st
  else
    let (met, open_) := st.forward.partition fun j => j.text = n.text
    let st := match st.declared.find? fun d => d.1.text = n.text with
      | some (first, _) => st.fault (.redeclared n first)
      | none =>
        { st with
          declared := st.declared ++ [(n, !met.isEmpty)]
          visible := n.text :: st.visible }
    let st := met.foldl (fun st j =>
      match st.lastDecl with
      | some decl => if st.skipping.contains j then st.fault (.skipsVariable j decl) else st
      | none => st) st
    { st with forward := open_, last := some (.of n.text s) }

/-- Passes a jump inside labelled statements, innermost first. -/
def passJump (st : JumpState) (around : List JumpTarget) (word : Bytes) (n : Name) : JumpState :=
  if word = "goto" then
    if st.visible.contains n.text then st.use n.text
    else { st with forward := st.forward ++ [n] }
  else
    match around.find? fun t => t.name = n.text with
    | some t => if t.fits word then st.use n.text else st.fault (.misplaced word n)
    | none => st.fault (.misplaced word n)

/-- The state at the start of a block under a label, or under none. -/
def enter (st : JumpState) (label : Option JumpTarget) : JumpState :=
  { st with last := label, forward := [], lastDecl := none, skipping := [] }

/-- The state behind a block: its open jumps are open in the block around it. -/
def leave (st inner : JumpState) : JumpState :=
  { st with
    declared := inner.declared
    faults := inner.faults
    forward := st.forward ++ inner.forward }

end JumpState

mutual

/-- The jumps of a statement. -/
def Stmt.jumps (around : List JumpTarget) : Stmt → JumpState → JumpState
  | .decl p word _, st => if word = "var" then st.passVariable p else st
  | .labeled n s, st => Stmt.jumps around s (st.passLabel n s)
  | .branch _ word (some n), st => st.passJump around word n
  | .assign lhs p op _, st =>
    if op = ":=" then st.passVariable ((lhs.head?.map Expr.pos).getD p) else st
  | .block b, st => Block.jumps around b st
  | .cond _ _ _ body other, st => Stmt.jumpsOption around other (Block.jumps around body st)
  | .switch _ _ _ cs, st =>
    st.leave (Clause.jumps (st.last.toList ++ around) cs (st.enter st.last))
  | .typeSwitch _ _ _ _ cs, st =>
    st.leave (Clause.jumps (st.last.toList ++ around) cs (st.enter st.last))
  | .select _ cs, st =>
    st.leave (Clause.jumps (st.last.toList ++ around) cs (st.enter st.last))
  | .loop _ _ _ _ body, st => Block.jumps around body st
  | .range _ _ _ _ _ body, st => Block.jumps around body st
  | _, st => st

/-- The jumps of a statement that may be missing. -/
def Stmt.jumpsOption (around : List JumpTarget) : Option Stmt → JumpState → JumpState
  | none, st => st
  | some s, st => Stmt.jumps around s st

/-- The jumps of a block, which belongs to the last label before it. -/
def Block.jumps (around : List JumpTarget) : Block → JumpState → JumpState
  | .mk _ ss _, st => st.leave (Stmt.jumpsAll (st.last.toList ++ around) ss (st.enter st.last))

/-- The jumps of statements. -/
def Stmt.jumpsAll (around : List JumpTarget) : List Stmt → JumpState → JumpState
  | [], st => st
  | s :: ss, st => Stmt.jumpsAll around ss (Stmt.jumps around s st)

/-- The jumps of clauses, each a block under no label. -/
def Clause.jumps (around : List JumpTarget) : List Clause → JumpState → JumpState
  | [], st => st
  | .case _ _ body :: cs, st =>
    Clause.jumps around cs (st.leave (Stmt.jumpsAll around body (st.enter none)))
  | .comm _ _ body :: cs, st =>
    Clause.jumps around cs (st.leave (Stmt.jumpsAll around body (st.enter none)))

end

/-- **What is wrong with the labels of a body**: what the walk finds, then the jumps left
open, then the labels that nothing needs. -/
def Block.labelFaults (b : Block) : List LabelFault :=
  let st := Stmt.jumpsAll [] b.stmts {}
  let known (n : Name) : Bool := st.declared.any fun d => d.1.text = n.text
  let st := st.forward.foldl (fun st n =>
    if known n then (st.use n.text).fault (.entersBlock n) else st.fault (.undeclared n)) st
  let unused := st.declared.filterMap fun (n, used) => if used then none else some (.unused n)
  st.faults.reverse ++ unused

end Stencil.Host
