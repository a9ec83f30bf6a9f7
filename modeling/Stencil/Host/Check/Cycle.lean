import Stencil.Host.Check.State

/-!
# Objects that refer to themselves

An object that is needed while it is being looked at closes a cycle. Among types a cycle is
allowed if it goes through a declared type, and among values it is judged later, by the
order of initialisation; any other cycle is reported.

Two kinds of cycle are found on their own. Types that are declared as each other's names
stand for nothing at all, which is seen before anything else. And nothing can be done with
values of a type whose own declaration is not finished.
-/

namespace Stencil.Host.Check

open Bytes

/-- Whether a place comes before another one. -/
def Obj.before (a b : Obj) : Bool :=
  a.file < b.file || (a.file = b.file &&
    (a.loc.pos.line < b.loc.pos.line ||
      (a.loc.pos.line = b.loc.pos.line && a.loc.pos.column < b.loc.pos.column)))

/-- The list turned so that the object declared first is at its head. -/
def fromFirst (os : List (Nat × Obj)) : List (Nat × Obj) :=
  let first := os.foldl (fun (best : Option (Nat × Obj)) o =>
    match best with
    | none => some o
    | some b => if o.2.before b.2 then some o else some b) none
  match first with
  | none => os
  | some (i, _) => os.dropWhile (fun o => o.1 ≠ i) ++ os.takeWhile (fun o => o.1 ≠ i)

/-- Reports that objects refer to each other in a circle. -/
def cycleError (cycle : List (Nat × Obj)) : CheckM Unit := do
  match fromFirst cycle with
  | [] => return ()
  | (_, o) :: rest =>
    let isType := match o.decl with
      | .type .. => true
      | _ => false
    if rest.isEmpty then
      let head : Bytes :=
        if isType then "invalid recursive type: " else "invalid cycle in declaration: "
      reportAt o.loc (head ++ o.name ++ " refers to itself")
    else
      let head : Bytes :=
        if isType then "invalid recursive type " else "invalid cycle in declaration of "
      let all := o :: rest.map Prod.snd
      let next := rest.map Prod.snd ++ [o]
      reportAll o.loc (head ++ o.name)
        ((all.zip next).map fun (a, b) => (a.loc, a.name ++ " refers to " ++ b.name))

/-- The objects that are being looked at, from one of them on. -/
def cycleFrom (s : State) (i : Nat) : List (Nat × Obj) :=
  (s.stack.takeWhile (· ≠ i) ++ [i]).reverse.map fun k => (k, (s.objs[k]?).getD default)

/-- Whether the cycle that an object closes is allowed; if not it is reported. -/
def validCycle (i : Nat) : CheckM Bool := do
  let s ← get
  let cycle := cycleFrom s i
  let values := cycle.countP fun (_, o) => match o.decl with
    | .const .. | .var .. => true
    | _ => false
  let definitions := cycle.countP fun (_, o) => match o.decl with
    | .type _ isAlias _ => !isAlias
    | _ => false
  if values = cycle.length then return true
  if values = 0 && 0 < definitions then return true
  cycleError cycle
  return false

/-- Whether a type can be worked with: neither it nor a type it is declared as is being
looked at. If not, that is reported. -/
def isComplete : Nat → Ty → CheckM Bool
  | 0, _ => return true
  | n + 1, t => do
    match t.unrename with
    | .named id args =>
      let s ← get
      let own (i : Nat) : Bool :=
        let o := (s.objs[i]?).getD default
        match o.decl, o.type with
        | .type .., some (.named j _) => id = j
        | _, _ => false
      match s.stack.find? own with
      | some i =>
        cycleError (cycleFrom s i)
        return false
      | none =>
        match s.types.info? id with
        | some i => isComplete n (TypeTable.expand i args)
        | none => return true
    | _ => return true

/-- Whether values of a type can be worked with; if not, that is reported. -/
def complete (t : Ty) : CheckM Bool := isComplete TypeTable.depth t

/-- The object of the package that a type is declared as the mere name of. -/
def declaredAs? (s : State) (i : Nat) : Option Nat :=
  match ((s.objs[i]?).getD default).decl with
  | .type _ _ (.ident n) =>
    match s.scope.find? fun e => e.1 = n.text with
    | some (_, j) =>
      match ((s.objs[j]?).getD default).decl with
      | .type .. => some j
      | _ => none
    | none => none
  | _ => none

/-- Follows the names that types are declared as, from the object `i` on. The types passed
on the way, and whether a cycle is closed by going back to one of them. -/
def followNames (s : State) (done : List Nat) : Nat → List Nat → Nat → List Nat × Option Nat
  | 0, path, _ => (path, none)
  | n + 1, path, i =>
    if done.contains i then (path, none)
    else if path.contains i then (path, some i)
    else
      match declaredAs? s i with
      | some j => followNames s done n (path ++ [i]) j
      | none => (path ++ [i], none)

/-- **Reports types that are declared as each other's names.** One type of each such cycle
is wrong from then on. -/
def directCycles : CheckM Unit := do
  let s ← get
  let mut done : List Nat := []
  for i in List.range s.objs.size do
    match ((s.objs[i]?).getD default).decl with
    | .type .. =>
      let (path, closed) := followNames s done (s.objs.size + 1) [] i
      match closed with
      | some k =>
        modifyObj k fun o => { o with type := some .invalid }
        cycleError ((path.dropWhile (· ≠ k)).map fun j => (j, (s.objs[j]?).getD default))
      | none => pure ()
      done := done ++ path
    | _ => pure ()

end Stencil.Host.Check
