import Stencil.Host.Check.TypeExpr

/-!
# Assignments and initialisations

Values given to variables, to results of a function and to places. If each value has its
own variable they are checked pair by pair; otherwise a single call has to provide all
values, and a wrong number is reported only if the values themselves are right.
-/

namespace Stencil.Host.Check

open Bytes

/-- **What takes a first value**: a variable of a function, an object of the package, or a
result. -/
inductive Slot where
  /-- A variable of a function. -/
  | var (i : Nat)
  /-- A variable of the package. -/
  | object (i : Nat)
  /-- A result, with its name if it has one. -/
  | result (name : Bytes) (t : Ty)

/-- The type of a slot, if it has one yet. -/
def Slot.type : Slot → CheckM (Option Ty)
  | .var i => return (← getVar i).type
  | .object i => return (← getObj i).type
  | .result _ t => return some t

/-- What messages call a slot that a function is assigned to. -/
def Slot.label : Slot → CheckM Bytes
  | .var i => return (← getVar i).name
  | .object i => return (← getObj i).name
  | .result name _ => return if name.isEmpty then "result variable" else name

/-- Gives a slot its type. -/
def Slot.setType (s : Slot) (t : Ty) : CheckM Unit :=
  match s with
  | .var i => modifyVar i fun v => { v with type := some t }
  | .object i => modifyObj i fun o => { o with type := some t }
  | .result .. => return ()

/-- A slot that has no type yet never gets a right one. -/
def Slot.giveUp (s : Slot) : CheckM Unit := do
  match ← s.type with
  | none => s.setType .invalid
  | some _ => return ()

/-- A number of things. -/
def measure (n : Nat) (what : Bytes) : Bytes :=
  Bytes.ofNat n ++ " " ++ what ++ (if n = 1 then ([] : Bytes) else "s")

/-- Whether an expression is a call. -/
def isCall (e : Expr) : Bool :=
  match e.unparen with
  | .call .. => true
  | _ => false

/-- Whether an expression is the name that takes any value and keeps none. -/
def isBlankName (e : Expr) : Bool :=
  match e.unparen with
  | .ident n => n.text = "_"
  | _ => false

/-- Reports that the numbers of variables and values differ. -/
def assignError (rhs : List Expr) (l r : Nat) : CheckM Unit := do
  match rhs with
  | [] => return ()
  | e :: rest =>
    let head := "assignment mismatch: " ++ measure l "variable" ++ " but "
    match rest, e.unparen with
    | [], .call f _ _ _ => report e.pos (head ++ f.render ++ " returns " ++ measure r "value")
    | _, _ => report e.pos (head ++ measure r "value")

/-- Reports that the numbers of results and values differ. -/
def returnError (at_ : Place) (types : List Ty) (xs : List Operand) : CheckM Unit := do
  let l := types.length
  let r := xs.length
  let place := if l < r then ((xs[l]?).map Operand.pos).getD at_
    else (xs.getLast?.map Operand.pos).getD at_
  let what : Bytes := if l < r then "too many" else "not enough"
  report place (what ++ " return values"
    ++ "\n\thave " ++ (← typesSummary (xs.map Operand.type) false false)
    ++ "\n\twant " ++ (← typesSummary types false false))

section

variable (r : Unit → Rules)

/-- A first value for a slot, which takes its type from the value if it has none. -/
def initVar (s : Slot) (x : Operand) (context : Bytes) : CheckM Unit := do
  let t ← s.type
  if !x.ok || x.type.isInvalid || (t.getD (.basic .int)).isInvalid then
    s.giveUp
    return
  match t with
  | some t =>
    let _ ← assign r x (some t) context
  | none =>
    if x.isNil then
      report x.pos ("use of untyped nil in " ++ context)
      s.setType .invalid
    else
      let t := x.type.settled
      s.setType t
      let _ ← assign r x (some t) context

/-- **First values for slots.** In a return statement `ret` is its place. -/
def initVars (slots : List Slot) (rhs : List Expr) (ret : Option Place) : CheckM Unit := do
  let l := slots.length
  let context : Bytes := if ret.isSome then "return statement"
    else if 1 < l then "multiple assignment" else "assignment"
  let alone := match rhs with
    | [e] => isCall e
    | _ => false
  let mismatch (xs : List Operand) (n : Nat) : CheckM Unit := do
    match ret with
    | some p =>
      let types ← slots.mapM fun (s : Slot) => do return (← s.type).getD .invalid
      returnError p types xs
    | none => assignError rhs l n
  if l = rhs.length && !alone then
    for (s, e) in slots.zip rhs do
      let x ← exprFor r (← s.type) (← s.label) e
      initVar r s x context
  else
    match rhs with
    | [e] =>
      let xs ← multiExpr r e (l = 2 && ret.isNone)
      if xs.length = l then
        for (s, x) in slots.zip xs do
          initVar r s x context
      else
        if xs.all Operand.ok then mismatch xs xs.length
        for s in slots do s.giveUp
    | rhs =>
      if ← use r rhs then
        let xs ← if ret.isSome then arguments r rhs else pure []
        mismatch xs rhs.length
      for s in slots do s.giveUp

/-! ## Assignments -/

/-- The variable a name on the left means, if it is one of a function. -/
def localVar? (e : Expr) : CheckM (Option Nat) := do
  match e.unparen with
  | .ident n =>
    match ← lookupName n.text with
    | some (.var i) => return some i
    | _ => return none
  | _ => return none

/-- Checks places on the left; whether all are right. Being assigned to is no use of a
variable. -/
def useLeft (es : List Expr) : CheckM Bool := do
  let mut ok := true
  for e in es do
    if !isBlankName e then
      let v ← localVar? e
      let used ← match v with
        | some i => pure (← getVar i).used
        | none => pure false
      let (x, _) ← rawExpr r none e
      match v with
      | some i => modifyVar i fun v => { v with used := used }
      | none => pure ()
      if !x.ok then ok := false
  return ok

/-- The type of a place on the left: none inside for the blank name, none if the place is
wrong. -/
def leftType (e : Expr) : CheckM (Option (Option Ty)) := do
  if isBlankName e then return some none
  let v ← localVar? e
  let used ← match v with
    | some i => pure (← getVar i).used
    | none => pure false
  let x ← expr r none e
  match v with
  | some i => modifyVar i fun v => { v with used := used }
  | none => pure ()
  match x.mode with
  | .invalid => return none
  | .variable | .mapIndex => return some (some x.type)
  | _ =>
    match e with
    | .selector inner _ =>
      let y ← expr r none inner
      if y.mode = .mapIndex then
        report e.pos ("cannot assign to struct field " ++ e.render ++ " in map")
        return none
    | _ => pure ()
    report e.pos ("cannot assign to " ++ e.render
      ++ " (neither addressable nor a map index expression)")
    return none

/-- Assigns a value, or the value of an expression, to a place. -/
def assignTo (lhs : Expr) (value : Operand ⊕ Expr) (context : Bytes) : CheckM Operand := do
  match ← leftType r lhs with
  | none =>
    match value with
    | .inl x => return .bad x.expr
    | .inr e =>
      let _ ← use r [e]
      return .bad e
  | some t =>
    let x ← match value with
      | .inl x => pure x
      | .inr e => exprFor r t lhs.render e
    let context : Bytes := if t.isNone && context = "assignment" then "assignment to _ identifier"
      else context
    assign r x t context

/-- **An assignment.** -/
def assignVars (lhs rhs : List Expr) : CheckM Unit := do
  let l := lhs.length
  let context : Bytes := if 1 < l then "multiple assignment" else "assignment"
  let alone := match rhs with
    | [e] => isCall e
    | _ => false
  if l = rhs.length && !alone then
    for (a, b) in lhs.zip rhs do
      let _ ← assignTo r a (.inr b) context
  else
    match rhs with
    | [e] =>
      let xs ← multiExpr r e (l = 2)
      if xs.length = l then
        for (a, x) in lhs.zip xs do
          let _ ← assignTo r a (.inl x) context
      else
        if xs.all Operand.ok then assignError rhs l xs.length
        let _ ← useLeft r lhs
    | rhs =>
      let okLeft ← useLeft r lhs
      let okRight ← use r rhs
      if okLeft && okRight then assignError rhs l rhs.length

end

end Stencil.Host.Check
