import Stencil.Host.Tree

/-!
# The flow of control

A question about statements that needs no types: whether control can reach the end of a
list of statements. Jumps to labels are in `Stencil.Host.Jump`.
-/

namespace Stencil.Host

open Bytes

/-- Whether a statement does nothing. -/
def Stmt.isEmpty : Stmt → Bool
  | .empty _ => true
  | _ => false

/-! ## Leaving a statement early -/

mutual

/-- Whether a statement leaves the statement of a label: by its label, or without one if
`bare`. -/
def Stmt.breaks (label : Bytes) (bare : Bool) : Stmt → Bool
  | .branch _ word target =>
    word = "break" && (match target with
      | none => bare
      | some n => n.text = label)
  | .labeled _ s => Stmt.breaks label bare s
  | .block b => Block.breaks label bare b
  | .cond _ _ _ body other => Block.breaks label bare body || Stmt.breaksOption label bare other
  | .switch _ _ _ cs => !label.isEmpty && Clause.breaks label false cs
  | .typeSwitch _ _ _ _ cs => !label.isEmpty && Clause.breaks label false cs
  | .select _ cs => !label.isEmpty && Clause.breaks label false cs
  | .loop _ _ _ _ body => !label.isEmpty && Block.breaks label false body
  | .range _ _ _ _ _ body => !label.isEmpty && Block.breaks label false body
  | _ => false

/-- Whether a statement that may be missing leaves the one of a label. -/
def Stmt.breaksOption (label : Bytes) (bare : Bool) : Option Stmt → Bool
  | none => false
  | some s => Stmt.breaks label bare s

/-- Whether a block leaves the statement of a label. -/
def Block.breaks (label : Bytes) (bare : Bool) : Block → Bool
  | .mk _ ss _ => Stmt.breaksAny label bare ss

/-- Whether one of several statements leaves the one of a label. -/
def Stmt.breaksAny (label : Bytes) (bare : Bool) : List Stmt → Bool
  | [] => false
  | s :: ss => Stmt.breaks label bare s || Stmt.breaksAny label bare ss

/-- Whether one of several clauses leaves the statement of a label. -/
def Clause.breaks (label : Bytes) (bare : Bool) : List Clause → Bool
  | [] => false
  | .case _ _ body :: cs => Stmt.breaksAny label bare body || Clause.breaks label bare cs
  | .comm _ _ body :: cs => Stmt.breaksAny label bare body || Clause.breaks label bare cs

end

/-! ## Reaching the end -/

/-- Whether an expression is a call of the function that never returns. -/
def Expr.isPanic (x : Expr) : Bool :=
  match x.unparen with
  | .call f _ _ _ =>
    match f.unparen with
    | .ident n => n.text = "panic"
    | _ => false
  | _ => false

mutual

/-- **Whether control cannot reach the end of a statement.** `panics` says whether the
predeclared function that never returns has its name. -/
def Stmt.terminates (panics : Bool) (label : Bytes) : Stmt → Bool
  | .labeled l s => Stmt.terminates panics l.text s
  | .expr x => panics && x.isPanic
  | .ret .. => true
  | .branch _ word _ => word = "goto" || word = "fallthrough"
  | .block b => Block.terminates panics b
  | .cond _ _ _ body other =>
    Block.terminates panics body && Stmt.terminatesOption panics other
  | .switch _ _ _ cs => Clause.hasDefault cs && Clause.terminate panics label cs
  | .typeSwitch _ _ _ _ cs => Clause.hasDefault cs && Clause.terminate panics label cs
  | .select _ cs => Clause.terminate panics label cs
  | .loop _ _ test _ body => test.isNone && !Block.breaks label true body
  | _ => false

/-- Whether control cannot reach the end of a statement that may be missing. -/
def Stmt.terminatesOption (panics : Bool) : Option Stmt → Bool
  | none => false
  | some s => Stmt.terminates panics [] s

/-- Whether control cannot reach the end of a block. -/
def Block.terminates (panics : Bool) : Block → Bool
  | .mk _ ss _ => Stmt.lastTerminates panics ss

/-- Whether control cannot reach the end of the last statement that does something. -/
def Stmt.lastTerminates (panics : Bool) : List Stmt → Bool
  | [] => false
  | s :: ss =>
    if ss.all Stmt.isEmpty && !s.isEmpty then Stmt.terminates panics [] s
    else Stmt.lastTerminates panics ss

/-- Whether control cannot reach the end of any clause, nor leave one early. -/
def Clause.terminate (panics : Bool) (label : Bytes) : List Clause → Bool
  | [] => true
  | .case _ _ body :: cs =>
    Stmt.lastTerminates panics body && !Stmt.breaksAny label true body
      && Clause.terminate panics label cs
  | .comm _ _ body :: cs =>
    Stmt.lastTerminates panics body && !Stmt.breaksAny label true body
      && Clause.terminate panics label cs

/-- Whether one of the clauses is the default. -/
def Clause.hasDefault : List Clause → Bool
  | [] => false
  | .case _ none _ :: _ => true
  | .comm _ none _ :: _ => true
  | _ :: cs => Clause.hasDefault cs

end

end Stencil.Host
