import Stencil.Host.Check.Cycle

/-!
# Using values as other types

Constants that have no type yet take the type of their surroundings if it can represent
them. A value can be assigned where its type is identical, implements the interface, or
differs in name only, and converted in a few more cases. Each refusal is reported with
the reason, where there is one to give.
-/

namespace Stencil.Host.Check

open Bytes

/-- What an expression can be used for as a statement. -/
inductive ExprKind where
  /-- A conversion. -/
  | conversion
  /-- An expression. -/
  | expression
  /-- A statement. -/
  | statement
  deriving DecidableEq, Inhabited

/-- What a statement stands in. -/
structure Ctx where
  /-- Whether `break` is allowed. -/
  breakOk : Bool := false
  /-- Whether `continue` is allowed. -/
  continueOk : Bool := false
  /-- Whether `fallthrough` is allowed. -/
  fallthroughOk : Bool := false
  /-- Whether the statement is in the last clause of a choice by value. -/
  finalCase : Bool := false
  /-- Whether the statement is in a choice by type. -/
  inTypeSwitch : Bool := false
  deriving Inhabited

/-- **The recursive parts of checking.** -/
structure Rules where
  /-- An expression, with the type its surroundings suggest. -/
  expr : Option Ty → Expr → CheckM (Operand × ExprKind)
  /-- A type. -/
  type : Expr → CheckM Ty
  /-- The declaration of an object of the package. -/
  object : Nat → CheckM Unit
  /-- Statements. -/
  stmts : Ctx → List Stmt → CheckM Unit
  /-- Work that was put off. -/
  task : Task → CheckM Unit

/-- The rules of no level: they do nothing. -/
def Rules.none : Rules where
  expr _ e := return (.bad e, .expression)
  type _ := return .invalid
  object _ := return ()
  stmts _ _ := return ()
  task _ := return ()

/-! ## Representing constants -/

/-- Why a constant does not fit. -/
inductive Misfit where
  /-- It has a fraction. -/
  | truncated
  /-- It is too large. -/
  | overflow
  /-- It is of another kind. -/
  | other
  deriving DecidableEq

/-- Whether an integer is a value of a type of integers. -/
def fitsInt (b : Basic) (n : Int) : Bool :=
  if b.isUntyped then true
  else if b.isUnsigned then 0 ≤ n && n < Nat.pow 2 b.bits
  else -(Nat.pow 2 (b.bits - 1) : Nat) ≤ n && n < Nat.pow 2 (b.bits - 1)

/-- The format of a type of fractions or complex numbers. -/
def formatOf (b : Basic) : Binary.Format :=
  if b = .float32 || b = .complex64 then Binary.single else Binary.double

/-- A number as a value of a basic type, rounded if the type is one of fractions. -/
def representNumber (v : Const) (re im : Part) (b : Basic) : Option Const :=
  if b.isInteger then
    match v.int? with
    | some n => if fitsInt b n then some (.ofInt n) else none
    | none => none
  else if b.isFloat then
    match v.real? with
    | none => none
    | some q =>
      if b = .untypedFloat then some v
      else (Binary.round? (formatOf b) q).map fun q => .number q false
  else if b.isComplex then
    if b = .untypedComplex then some v
    else
      match Binary.round? (formatOf b) re.value, Binary.round? (formatOf b) im.value with
      | some p, some q => some (.complex ⟨p, false⟩ ⟨q, false⟩)
      | _, _ => none
  else none

/-- A constant as a value of a basic type, if it is one. -/
def representable (v : Const) (b : Basic) : Option Const :=
  match v with
  | .unknown => some v
  | .bool _ => if b.isBoolean then some v else none
  | .text _ => if b.isString then some v else none
  | v =>
    match v.parts? with
    | some (re, im) => representNumber v re im b
    | none => none

/-- A constant operand as a value of a basic type. -/
def representation (w : TypeTable) (x : Operand) (b : Basic) : Except Misfit Const :=
  match representable x.value b with
  | some v => .ok v
  | none =>
    if w.isNumeric x.type && b.isNumeric then
      if !w.isInteger x.type && b.isInteger then .error .truncated else .error .overflow
    else .error .other

/-- The type an operand of no type yet takes where a type is wanted that is under itself,
and its value. -/
def settle (w : TypeTable) (x : Operand) (a : Basic) (target under : Ty) :
    Except Misfit (Ty × Const) :=
  match under with
  | .basic u =>
    if x.mode = .constant then (representation w x u).map fun v => (target, v)
    else
      let fits := match a with
        | .untypedBool => u.isBoolean
        | .untypedInt | .untypedRune | .untypedFloat | .untypedComplex => u.isNumeric
        | .untypedString => u.isString
        | _ => false
      if fits then .ok (target, x.value) else .error .other
  | .iface .. =>
    if x.isNil then .ok (x.type, x.value)
    else if (w.methodsOf target).isEmpty && (w.typeSet target).isMethodSet then
      .ok (x.type.settled, x.value)
    else .error .other
  | .pointer _ | .slice _ | .map .. | .chan .. | .func _ =>
    if x.isNil then .ok (x.type, x.value) else .error .other
  | _ => .error .other

/-- The type an operand of no type yet takes where a type is wanted, and its value. It has
to fit all types that a type parameter can stand for. -/
def implicitType (w : TypeTable) (x : Operand) (target : Ty) : Except Misfit (Ty × Const) :=
  if !x.ok || !x.type.isUntyped || target.isInvalid then .ok (x.type, x.value)
  else
    match x.type, target with
    | .basic a, .basic b =>
      if b.isUntyped then
        if a = b then .ok (x.type, x.value)
        else if 0 < a.rank && 0 < b.rank then
          .ok (if a.rank < b.rank then target else x.type, x.value)
        else .error .other
      else settle w x a target (w.under target)
    | .basic a, _ =>
      if target.isParam then
        if w.underIs (fun u => (settle w x a u u).isOk) target then .ok (target, x.value)
        else .error .other
      else settle w x a target (w.under target)
    | _, _ => .ok (x.type, x.value)

/-- The type that messages about a conversion name. -/
def conversionTarget (w : TypeTable) (t : Ty) : Ty := if t.isParam then t else w.under t

/-- Reports that an operand cannot become a type. -/
def reportConversion (why : Misfit) (x : Operand) (target : Ty) : CheckM Unit := do
  let shown ← showOperand x
  let type ← showType target
  report x.pos <| match why with
    | .truncated => shown ++ " truncated to " ++ type
    | .overflow => shown ++ " overflows " ++ type
    | .other => "cannot convert " ++ shown ++ " to type " ++ type

/-- Constants that waited for a type get it. Each has to fit, and one that is shifted has
to be an integer. -/
def settleLeaves (ls : List Leaf) (t : Ty) : CheckM Unit := do
  let w ← table
  for l in ls do
    if l.shifted && !w.isInteger t then
      report l.expr.pos ("invalid operation: shifted operand " ++ l.expr.render ++ " (type "
        ++ (← showType t) ++ ") must be integer")
    else
      let x : Operand := { mode := .constant, type := l.type, value := l.value, expr := l.expr }
      match implicitType w x t with
      | .ok _ => pure ()
      | .error why => reportConversion why x (conversionTarget w t)

/-- An operand of no type yet takes a type, and with it the constants in it. -/
def adopt (x : Operand) (t : Ty) (v : Const) : CheckM Operand := do
  if t.isUntyped then
    let pending := x.pending.map fun l => { l with type := t }
    return { x with type := t, value := v, pending := pending }
  settleLeaves x.pending t
  return { x with type := t, value := v, pending := [] }

/-- Gives an operand of no type yet the type of another. -/
def convertUntyped (x : Operand) (target : Ty) : CheckM Operand := do
  let w ← table
  match implicitType w x target with
  | .ok (t, v) => adopt x t v
  | .error why =>
    reportConversion why x (conversionTarget w target)
    return .bad x.expr

/-- A constant of a type has to be a value of it. -/
def checkRepresentable (x : Operand) (b : Basic) : CheckM Operand := do
  match representation (← table) x b with
  | .ok v => return { x with value := v }
  | .error why =>
    reportConversion why x (.basic b)
    return .bad x.expr

/-! ## Assignability -/

section

variable (r : Unit → Rules)

/-- The declared type at the base of a type, with its arguments. -/
def baseId? (t : Ty) : Option (TypeId × List Ty) :=
  match (TypeTable.deref t).1.unrename with
  | .named id args => some (id, args)
  | _ => none

/-- Makes sure that the methods of a type are known, also those of embedded types. -/
def ensureMethods : Nat → Ty → CheckM Unit
  | 0, _ => return ()
  | n + 1, t => do
    let w ← table
    match baseId? t with
    | none => return ()
    | some (id, args) =>
      for m in ((w.info? id).map TypeInfo.methods).getD [] do
        match m.decl with
        | some i => (r ()).object i
        | none => pure ()
      match w.under (.named id args) with
      | .struct fs =>
        for f in fs do
          if f.embedded then ensureMethods n f.type
      | _ => return ()

/-- What is said of a selection through a pointer to an interface or a type parameter. -/
def pointerNote (w : TypeTable) (t : Ty) : CheckM Bytes := do
  let shown ← showType t
  match w.under t with
  | .pointer e =>
    if e.isParam then
      return "type " ++ shown ++ " is pointer to type parameter, not type parameter"
    return "type " ++ shown ++ " is pointer to interface, not interface"
  | _ => return "type " ++ shown ++ " is pointer to interface, not interface"

/-- Why a type lacks a method, as messages say it. -/
def showLack (v : Ty) (l : TypeTable.Lack) : CheckM Bytes := do
  let q := qualifier (← get)
  let two (have_ : Method) (want : MethodTy) : Bytes :=
    "\n\t\thave " ++ have_.name ++ have_.sig.render q false
      ++ "\n\t\twant " ++ want.name ++ want.sig.render q false
  match l with
  | .missing m =>
    let w ← table
    if w.isInterfacePointer v then return "(" ++ (← pointerNote w v) ++ ")"
    return "(missing method " ++ m.name ++ ")"
  | .unexported m => return "(unexported method " ++ m.name ++ ")"
  | .misspelled f m => return "(missing method " ++ m.name ++ ")" ++ two f m
  | .wrongType f m => return "(wrong type for method " ++ m.name ++ ")" ++ two f m
  | .pointerReceiver m => return "(method " ++ m.name ++ " has pointer receiver)"
  | .ambiguous m => return "(ambiguous selector " ++ (← showType v) ++ "." ++ m.name ++ ")"
  | .field m =>
    return "(" ++ (← showType v) ++ "." ++ m.name ++ " is a field, not a method)"

/-- Why a type does not implement an interface, or does not satisfy it as a constraint. -/
def showUnmet (v t : Ty) (constraint : Bool) (u : TypeTable.Unmet) : CheckM Bytes := do
  let verb : Bytes := if constraint then "satisfy" else "implement"
  let shownV ← showType v
  let shownT ← showType t
  let head := shownV ++ " does not " ++ verb ++ " " ++ shownT
  match u with
  | .noInterface =>
    let w ← table
    if w.isInterfacePointer (w.under t) then return head ++ " (" ++ (← pointerNote w t) ++ ")"
    return head ++ " (" ++ shownT ++ " is not an interface)"
  | .emptySet => return "cannot " ++ verb ++ " " ++ shownT ++ " (empty type set)"
  | .lack l => return head ++ " " ++ (← showLack v l)
  | .incomparable => return shownV ++ " does not " ++ verb ++ " comparable"
  | .notWithin => return head
  | .missingTilde alt =>
    return head ++ " (possibly missing ~ for " ++ (← showType alt) ++ " in " ++ shownT ++ ")"
  | .mentioned =>
    return head ++ " (" ++ shownT ++ " mentions " ++ shownV ++ ", but " ++ shownV
      ++ " is not in the type set of " ++ shownT ++ ")"
  | .outside ts => return head ++ " (" ++ shownV ++ " missing in " ++ (Ty.union ts).render id ++ ")"

/-- Whether a type implements an interface, or satisfies it as a constraint, and if not,
why. -/
def meets (v t : Ty) (constraint : Bool) : CheckM (Bool × Bytes) := do
  ensureMethods r 4 v
  match (← table).unmet? v t constraint with
  | none => return (true, [])
  | some u => return (false, ← showUnmet v t constraint u)

/-- Whether a type implements an interface, and if not, why. -/
def implements (v t : Ty) : CheckM (Bool × Bytes) := meets r v t false

/-- A reason in front of another one. -/
def because (msg why : Bytes) : Bytes := if why.isEmpty then msg else msg ++ "\n\t" ++ why

/-- Whether all terms of a type parameter pass a test, with the reason of the first that
does not. -/
def allTerms (terms : Option (List Term)) (test : Ty → CheckM (Bool × Bytes)) :
    CheckM (Bool × Bytes) :=
  match terms with
  | none => return (false, [])
  | some ts => go ts
where
  /-- The terms one after another. -/
  go : List Term → CheckM (Bool × Bytes)
    | [] => return (true, [])
    | t :: ts => do
      let (yes, why) ← test t.type
      if yes then go ts else return (false, why)

/-- Whether an operand can be assigned to a type, and if not, why, where at most `n` times
a type parameter is replaced by its terms. -/
def assignableTo : Nat → Operand → Ty → CheckM (Bool × Bytes)
  | 0, _, _ => return (false, [])
  | n + 1, x, target => do
    let w ← table
    if !x.ok || target.isInvalid || x.type.isInvalid then return (true, [])
    let v := x.type.unrename
    let t := target.unrename
    if v.identical t then return (true, [])
    let vu := w.under v
    let tu := w.under t
    if x.type.isUntyped then
      match implicitType w x target with
      | .ok _ => return (true, [])
      | .error _ => return (false, [])
    let plain := !v.isParam && !t.isParam
    if plain && vu.identical tu && (!v.hasName || !t.hasName) then return (true, [])
    if w.isPlainInterface t || w.isInterfacePointer t then
      let (yes, why) ← implements r v t
      if yes then return (true, [])
      if !v.isParam then return (false, why)
    if w.isPlainInterface v then
      let (yes, _) ← implements r t v
      if yes then return (false, "need type assertion")
    match vu, tu with
    | .chan .both a, .chan _ b =>
      if a.identical b then return (!v.hasName || !t.hasName, [])
    | _, _ => pure ()
    if plain then return (false, [])
    if t.isParam && !v.hasName then
      allTerms (w.termsOf? t) fun u => do
        let (yes, why) ← assignableTo n x u
        if yes then return (true, [])
        return (false, because ("cannot assign " ++ (← showType x.type) ++ " to " ++ (← showType u)
          ++ " (in " ++ (← showType t) ++ ")") why)
    else if v.isParam && !t.hasName then
      allTerms (w.termsOf? v) fun u => do
        let (yes, why) ← assignableTo n { x with type := u } target
        if yes then return (true, [])
        return (false, because ("cannot assign " ++ (← showType u) ++ " (in " ++ (← showType v)
          ++ ") to " ++ (← showType t)) why)
    else return (false, [])

/-- **Whether an operand can be assigned to a type**, and if not, why. -/
def assignable (x : Operand) (target : Ty) : CheckM (Bool × Bytes) := assignableTo r 3 x target

/-- Reports an operand that is more than one value. -/
def singleValue (x : Operand) : CheckM Operand := do
  match x.mode, x.type with
  | .value, .tuple _ =>
    report x.pos ("multiple-value " ++ (← showOperand x) ++ " in single-value context")
    return .bad x.expr
  | _, _ => return x

/-- **An operand assigned to a type**, none for the blank name, in a context that messages
name. -/
def assign (x : Operand) (target : Option Ty) (context : Bytes) : CheckM Operand := do
  let x ← singleValue x
  if !x.ok then return x
  let w ← table
  match x.mode with
  | .constant | .variable | .mapIndex | .value | .commaOk => pure ()
  | _ =>
    let wanted : Bytes ← match target with
      | some t => showType t
      | none => pure "_"
    report x.pos ("cannot assign " ++ (← showOperand x) ++ " to " ++ wanted ++ " in " ++ context)
    return .bad x.expr
  let x ← do
    if !x.type.isUntyped then pure x
    else if x.isNil then
      match target with
      | none =>
        report x.pos ("use of untyped nil in " ++ context)
        return .bad x.expr
      | some t =>
        if !w.hasNil t && !t.isInvalid then
          report x.pos ("cannot use nil as " ++ (← showType t) ++ " value in " ++ context)
          return .bad x.expr
        return x
    else
      let wanted := match target with
        | none => x.type.settled
        | some t => if w.isPlainInterface t then x.type.settled else t
      match implicitType w x wanted with
      | .ok (t, v) => adopt x t v
      | .error why =>
        let tail : Bytes := match why with
          | .truncated => " (truncated)"
          | .overflow => " (overflows)"
          | .other => []
        report x.pos ("cannot use " ++ (← showOperand x) ++ " as " ++ (← showType wanted)
          ++ " value in " ++ context ++ tail)
        return .bad x.expr
  match ← under x.type with
  | .func sig =>
    if sig.isGeneric then
      report x.pos ("cannot use generic function " ++ x.expr.render ++ " without instantiation in "
        ++ context)
      return .bad x.expr
  | _ => pure ()
  match target with
  | none => return x
  | some t =>
    let (yes, why) ← assignable r x t
    if yes then return x
    let tail : Bytes := if why.isEmpty then [] else ": " ++ why
    report x.pos ("cannot use " ++ (← showOperand x) ++ " as " ++ (← showType t) ++ " value in "
      ++ context ++ tail)
    return .bad x.expr

/-! ## Conversions -/

/-- Whether a type can be converted to another one, where neither is a type parameter. -/
def convertiblePlain (w : TypeTable) (v t : Ty) : Bool :=
  let vu := w.under v
  let tu := w.under t
  let real (b : Basic) : Bool := b.isInteger || b.isFloat
  let pointers := match v, t with
    | .pointer a, .pointer b =>
      !a.isParam && !b.isParam && Ty.same false (w.under a) (w.under b)
    | _, _ => false
  let elements := match vu, tu with
    | .slice a, .array _ b => a.identical b
    | .slice a, .pointer p =>
      match w.under p with
      | .array _ b => a.identical b
      | _ => false
    | _, _ => false
  Ty.same false vu tu || pointers
    || (w.basicIs real vu && w.basicIs real tu)
    || (w.basicIs Basic.isComplex vu && w.basicIs Basic.isComplex tu)
    || ((w.isInteger vu || w.isTextSlice vu) && w.isString tu)
    || (w.isString vu && w.isTextSlice tu)
    || elements

/-- Whether an operand that is no constant can be converted, and if not, why, where at most
`n` times a type parameter is replaced by its terms. -/
def convertibleTo : Nat → Operand → Ty → CheckM (Bool × Bytes)
  | 0, _, _ => return (false, [])
  | n + 1, x, target => do
    let (yes, why) ← assignable r x target
    if yes then return (true, [])
    let w ← table
    let v := x.type.unrename
    let t := target.unrename
    let part (u : Ty) (p : Ty) : CheckM Bytes := do
      return (← showType u) ++ " (in " ++ (← showType p) ++ ")"
    match v.isParam, t.isParam with
    | false, false => return if convertiblePlain w v t then (true, []) else (false, why)
    | true, true =>
      allTerms (w.termsOf? v) fun a =>
        allTerms (w.termsOf? t) fun b => do
          let (yes, why) ← convertibleTo n { x with type := a } b
          if yes then return (true, [])
          return (false,
            because ("cannot convert " ++ (← part a v) ++ " to type " ++ (← part b t)) why)
    | true, false =>
      allTerms (w.termsOf? v) fun a => do
        let (yes, why) ← convertibleTo n { x with type := a } target
        if yes then return (true, [])
        return (false,
          because ("cannot convert " ++ (← part a v) ++ " to type " ++ (← showType t)) why)
    | false, true =>
      allTerms (w.termsOf? t) fun b => do
        let (yes, why) ← convertibleTo n x b
        if yes then return (true, [])
        return (false, because ("cannot convert " ++ (← showType x.type) ++ " to type "
          ++ (← part b t)) why)

/-- Whether an operand that is no constant can be converted, and if not, why. -/
def convertible (x : Operand) (target : Ty) : CheckM (Bool × Bytes) := convertibleTo r 3 x target

/-- The value of a constant converted to a basic type, if there is one. -/
def convertConst (w : TypeTable) (x : Operand) (b : Basic) : Option Const :=
  match representable x.value b with
  | some v => some v
  | none =>
    if w.isInteger x.type && b.isString then
      let code := match x.value.int? with
        | some n => if 0 ≤ n && n ≤ 0x10ffff then n.toNat else 0xfffd
        | none => 0xfffd
      some (.text (Utf8.encode code))
    else none

/-- Whether a constant can be converted to all types of a type parameter, and if not, why. -/
def constantToParam (x : Operand) (target : Ty) : CheckM (Bool × Bytes) := do
  let w ← table
  let shown ← showType target
  for part in w.specific target do
    match part with
    | none => return (false, shown ++ " does not contain specific types")
    | some (_, u) =>
      let fits := (w.isString x.type && w.isTextSlice u) || (match u with
        | .basic b => (convertConst w x b).isSome
        | _ => false)
      if !fits then
        let type ← showType u
        if w.isInteger x.type && w.isInteger u then
          return (false, "constant " ++ x.value.render ++ " overflows " ++ type ++ " (in " ++ shown
            ++ ")")
        return (false, "cannot convert " ++ (← showOperand x) ++ " to type " ++ type ++ " (in "
          ++ shown ++ ")")
  return (true, [])

/-- **An operand converted to a type.** -/
def convert (x : Operand) (target : Ty) : CheckM Operand := do
  let w ← table
  let toParam := x.mode = .constant && target.isParam
  let failed (why : Bytes) : CheckM Operand := do
    let x := if toParam then { x with mode := .value } else x
    let tail : Bytes := if why.isEmpty then [] else ": " ++ why
    report x.pos ("cannot convert " ++ (← showOperand x) ++ " to type " ++ (← showType target)
      ++ tail)
    return .bad x.expr
  match x.mode, w.under target with
  | .constant, .basic b =>
    if b = .invalid then return .bad x.expr
    match convertConst w x b with
    | some v => return { x with type := target, value := v }
    | none =>
      if w.isInteger x.type && b.isInteger then
        report x.pos ("constant " ++ x.value.render ++ " overflows " ++ (← showType target))
        return .bad x.expr
      failed []
  | _, _ =>
    let (yes, why) ← if toParam then constantToParam x target else convertible r x target
    if !yes then return ← failed why
    let final := if w.isPlainInterface target || x.mode = .constant then x.type.settled else target
    if !x.isNil then settleLeaves x.leaves final
    return { x with mode := .value, type := target, pending := [] }

end

end Stencil.Host.Check
