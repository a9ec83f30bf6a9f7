import Stencil.Host.Check.Infer

/-!
# Expressions

What an expression stands for: names, literals, selectors, indices, operators and
composite literals. Calls are in `Stencil.Host.Check.Call`.

Each function takes the expression apart, checks the parts through the rules it is given,
and says what the whole is. Where a part is wrong the whole is wrong without a report of
its own.
-/

namespace Stencil.Host.Check

open Bytes

/-- How messages about operators start. -/
def invalidOp : Bytes := "invalid operation: "

/-- How messages about arguments start. -/
def invalidArg : Bytes := "invalid argument: "

section

variable (r : Unit → Rules)

/-! ## Parts -/

/-- Which modes an operand must not have. -/
def exclude (x : Operand) (noValue builtin typeExpr : Bool) : CheckM Operand := do
  let fail (msg : Bytes) : CheckM Operand := do
    report x.pos ((← showOperand x) ++ msg)
    return .bad x.expr
  match x.mode with
  | .noValue =>
    if noValue then fail (if typeExpr then " used as value" else " used as value or type")
    else return x
  | .builtin => if builtin then fail " must be called" else return x
  | .typeExpr => if typeExpr then fail " is not an expression" else return x
  | _ => return x

/-- An expression of any kind, also a generic type or function. -/
def rawGeneric (hint : Option Ty) (e : Expr) : CheckM (Operand × ExprKind) := do
  let (x, k) ← (r ()).expr hint e
  return ({ x with expr := e }, k)

/-- How messages call an operand that has to be given types, if it has to. -/
def genericKind? (w : TypeTable) (x : Operand) : Option Bytes :=
  if x.mode = .invalid || x.mode = .noValue then none
  else if w.isGeneric x.type then some "type"
  else
    match x.type with
    | .func sig => if sig.isGeneric then some "function" else none
    | _ => none

/-- Reports a generic type or function that is not given types. -/
def nonGeneric (x : Operand) : CheckM Operand := do
  match genericKind? (← table) x with
  | none => return x
  | some what =>
    report x.pos ("cannot use generic " ++ what ++ " " ++ x.expr.render ++ " without instantiation")
    return .bad x.expr

/-- An expression of any kind that is not generic. -/
def rawExpr (hint : Option Ty) (e : Expr) : CheckM (Operand × ExprKind) := do
  let (x, k) ← rawGeneric r hint e
  return (← nonGeneric x, k)

/-- A value, possibly of several parts. -/
def anyValue (hint : Option Ty) (e : Expr) : CheckM Operand := do
  let (x, _) ← rawExpr r hint e
  exclude x true true true

/-- **A single value.** -/
def expr (hint : Option Ty) (e : Expr) : CheckM Operand := do
  singleValue (← anyValue r hint e)

/-- A single value or a type, which may be generic. -/
def exprOrGeneric (e : Expr) : CheckM Operand := do
  let (x, _) ← rawGeneric r none e
  singleValue (← exclude x true false false)

/-- A single value or a type. -/
def exprOrType (e : Expr) : CheckM Operand := do
  let (x, _) ← rawExpr r none e
  singleValue (← exclude x true false false)

/-- A type that variables can have. That it is more than a constraint is checked later. -/
def varType (e : Expr) : CheckM Ty := do
  let t ← (r ()).type e
  match t.unrename with
  | .named .. | .iface .. => later (.varType (← problemLoc e.pos) t)
  | _ => pure ()
  return t

/-- Checks expressions whose values do not matter; whether all of them are right. -/
def use (es : List Expr) : CheckM Bool := do
  let mut ok := true
  for e in es do
    let (x, _) ← match e with
      | .keyValue _ v => rawExpr r none v
      | e => rawExpr r none e
    if !x.ok then ok := false
  return ok

/-- A number as the place in an order. -/
def ordinal (n : Nat) : Bytes :=
  let ending : Bytes :=
    if n = 1 then "st" else if n = 2 then "nd" else if n = 3 then "rd" else "th"
  Bytes.ofNat n ++ ending

/-- The results of a call as values of their own. -/
def callResults (e : Expr) (ts : List Ty) : List Operand :=
  ts.zipIdx.map fun (t, i) =>
    { mode := .value, type := t, expr := e, label := some (ordinal (i + 1) ++ " function result") }

/-- The values of an expression that may have several: those of a call, or a value with a
truth value if that is allowed. -/
def multiExpr (e : Expr) (allowOk : Bool) : CheckM (List Operand) := do
  let x ← anyValue r none e
  match x.type, x.mode with
  | .tuple ts, .value => return callResults e ts
  | _, m =>
    if allowOk && (m = .mapIndex || m = .commaOk) then
      return [x, { mode := .value, type := .basic .untypedBool, expr := e,
                   label := some "ok value of (comma, ok) expression" }]
    return [x]

/-! ## Names and literals -/

/-- How messages call what a name means, if it is no type. -/
def notAType? : Entity → CheckM (Option Bytes)
  | .builtin _ => return some "built-in function"
  | .nil => return some "untyped nil"
  | .iota | .const .. => return some "constant"
  | .type _ | .defining _ => return none
  | .imported _ => return some "package name"
  | .foreign _ o =>
    match o with
    | .const .. => return some "constant"
    | .var _ => return some "package-level variable"
    | .func _ => return some "function"
    | .type _ => return none
  | .object i => do
    match (← getObj i).decl with
    | .const .. => return some "constant"
    | .var .. => return some "package-level variable"
    | .func _ => return some "function"
    | .type .. => return none
  | .var i => return some (← getVar i).kind.name

/-- What an object of another package stands for. -/
def objectOperand (e : Expr) : Object → Operand
  | .const t v => { mode := .constant, type := t, value := v, expr := e }
  | .type t => { mode := .typeExpr, type := t, expr := e }
  | .var t => { mode := .variable, type := t, expr := e }
  | .func sig => { mode := .value, type := .func sig, expr := e }

/-- Marks an import as used. -/
def useImport (i : Nat) : CheckM Unit :=
  modify fun s => { s with imports := s.imports.modify i fun m => { m with used := true } }

/-- What a name stands for. -/
def ident (n : Name) : CheckM Operand := do
  let e : Expr := .ident n
  match ← lookupName n.text with
  | none =>
    if n.text = "_" then report n.pos "cannot use _ as value or type"
    else report n.pos ("undefined: " ++ n.text)
    return .bad e
  | some (.imported _) =>
    report n.pos ("use of package " ++ n.text ++ " not in selector")
    return .bad e
  | some (.foreign i o) =>
    useImport i
    return objectOperand e o
  | some (.defining loc) =>
    reportAt loc ("invalid recursive type: " ++ n.text ++ " refers to itself")
    return { mode := .typeExpr, expr := e }
  | some (.builtin _) => return { mode := .builtin, expr := e }
  | some .nil => return { mode := .value, type := .basic .untypedNil, expr := e }
  | some .iota =>
    match (← get).env.iota with
    | some i =>
      return { mode := .constant, type := .basic .untypedInt, value := .ofInt i, expr := e }
    | none =>
      report n.pos "cannot use iota outside constant declaration"
      return .bad e
  | some (.const t v) =>
    if t.isInvalid then return .bad e
    return { mode := .constant, type := t, value := v, expr := e }
  | some (.type t) => return { mode := .typeExpr, type := t, expr := e }
  | some (.var i) =>
    modifyVar i fun v => { v with used := true }
    let t := ((← getVar i).type).getD .invalid
    if t.isInvalid then return .bad e
    return { mode := .variable, type := t, expr := e }
  | some (.object i) =>
    (r ()).object i
    let o ← getObj i
    let t := o.type.getD .invalid
    match o.decl with
    | .const .. =>
      addDep i
      if t.isInvalid then return .bad e
      return { mode := .constant, type := t, value := o.value, expr := e }
    | .type .. => return { mode := .typeExpr, type := t, expr := e }
    | .var .. =>
      addDep i
      if t.isInvalid then return .bad e
      return { mode := .variable, type := t, expr := e }
    | .func .. =>
      addDep i
      return { mode := .value, type := t, expr := e }

/-! ## Operators -/

/-- A constant result has to be a value of its type, and must not grow without bound. -/
def checkOverflow (x : Operand) (opPos : Place) (what : Bytes) : CheckM Operand := do
  if x.value = .unknown then
    report opPos "constant result is not representable"
    return x
  if !x.type.isUntyped then
    match (← table).basic? x.type with
    | some b => checkRepresentable x b
    | none => return x
  else
    match x.value with
    | .number q true =>
      if q.num.natAbs ≥ Nat.pow 2 512 then
        report opPos ("constant " ++ what ++ "overflow")
        return { x with value := .unknown }
      return x
    | _ => return x

/-- The longest literal of a number. -/
def literalLimit : Nat := 10000

/-- What a literal stands for. -/
def basicLit (e : Expr) (kind : Tok) (text : Bytes) : CheckM Operand := do
  let b : Basic := match kind with
    | .int => .untypedInt
    | .float => .untypedFloat
    | .imag => .untypedComplex
    | .char => .untypedRune
    | _ => .untypedString
  if b.isNumeric && kind ≠ .char && literalLimit < text.length then
    report e.pos ("excessively long constant: " ++ text.take 10 ++ "... ("
      ++ Bytes.ofNat text.length ++ " chars)")
    return .bad e
  let v := Const.ofLiteral kind text
  if v = .unknown then
    report e.pos ("malformed constant: " ++ text)
    return .bad e
  checkOverflow { mode := .constant, type := .basic b, value := v, expr := e } e.pos []

/-- Whether the operands of an operator have a type it is defined on. -/
def opDefined (w : TypeTable) (op : Bytes) (isUnary : Bool) (t : Ty) : Bool :=
  if isUnary then
    if op = "+" || op = "-" then w.isNumeric t
    else if op = "^" then w.isInteger t
    else if op = "!" then w.isBoolean t
    else false
  else if op = "+" then w.allBasic (fun b => b.isNumeric || b.isString) t
  else if op = "-" || op = "*" || op = "/" then w.isNumeric t
  else if op = "%" || op = "&" || op = "|" || op = "^" || op = "&^" then w.isInteger t
  else if op = "&&" || op = "||" then w.isBoolean t
  else false

/-- Checks that an operator is defined on an operand. -/
def checkOp (x : Operand) (op : Bytes) (isUnary : Bool) : CheckM Bool := do
  if opDefined (← table) op isUnary x.type then return true
  report x.pos (invalidOp ++ "operator " ++ op ++ " not defined on " ++ (← showOperand x))
  return false

/-- Why types have no type under them in common. -/
def showDiscord (d : TypeTable.Discord) : CheckM Bytes := do
  match d with
  | .unspecific => return "no specific type"
  | .different a b =>
    return (← showType a) ++ " and " ++ (← showType b) ++ " have different underlying types"
  | .elements a b =>
    return "channels " ++ (← showType a) ++ " and " ++ (← showType b)
      ++ " have different element types"
  | .directions a b =>
    return "channels " ++ (← showType a) ++ " and " ++ (← showType b)
      ++ " have conflicting directions"
  | .refused why => return why

/-- The element of a channel that is received from or sent to. -/
def channelElem (x : Operand) (receive : Bool) : CheckM (Option Ty) := do
  let s ← get
  let show_ (t : Ty) : Bytes := s.types.render (qualifier s) t
  let refuse : Option (Ty × Ty) → Option Bytes
    | none => some "no specific channel type"
    | some (t, .chan d _) =>
      if receive && d = .send then some ("send-only channel " ++ show_ t)
      else if !receive && d = .receive then some ("receive-only channel " ++ show_ t)
      else none
    | some (t, _) => some ("non-channel " ++ show_ t)
  let head := invalidOp ++ (if receive then Bytes.ofString "cannot receive from "
    else Bytes.ofString "cannot send to ")
  match s.types.commonUnder refuse x.type with
  | .ok (.chan _ t) => return some t
  | .ok _ => return none
  | .error d =>
    let why ← showDiscord d
    let shown ← showOperand x
    report x.pos
      (if x.type.isParam then head ++ shown ++ ": " ++ why else head ++ why ++ " " ++ shown)
    return none

/-- A unary operation. -/
def unary (e : Expr) (opPos : Place) (op : Bytes) (arg : Expr) : CheckM Operand := do
  let x ← expr r none arg
  if !x.ok then return .bad e
  let w ← table
  if op = "&" then
    let literal := match arg.unparen with
      | .composite .. => true
      | _ => false
    if !literal && x.mode ≠ .variable then
      report x.pos (invalidOp ++ "cannot take address of " ++ (← showOperand x))
      return .bad e
    return { mode := .value, type := .pointer x.type, expr := e }
  if op = "<-" then
    match ← channelElem x true with
    | some t =>
      modify fun s => { s with hasCall := true }
      return { mode := .commaOk, type := t, expr := e }
    | none => return .bad e
  let misused : Bytes := "cannot use ~ outside of interface or type constraint"
  if op = "~" && !w.isInteger x.type then
    report opPos misused
    return .bad e
  if op = "~" then report opPos (misused ++ " (use ^ for bitwise complement)")
  let op : Bytes := if op = "~" then "^" else op
  if !(← checkOp x op true) then return .bad e
  if x.mode = .constant then
    if x.value = .unknown then return x
    let bits := match w.basic? x.type with
      | some b => if b.isUnsigned then b.bits else 0
      | none => 0
    let what : Bytes := if op = "^" then "bitwise complement " else []
    checkOverflow { x with value := x.value.unary op bits, expr := e } opPos what
  else return { x with mode := .value, expr := e }

/-- Whether one of two operands may take the type of the other. -/
def mayConvert (w : TypeTable) (x y : Operand) : Bool :=
  if !x.type.isUntyped && !y.type.isUntyped then false
  else if w.isNumeric x.type != w.isNumeric y.type then false
  else if w.isPlainInterface x.type || w.isPlainInterface y.type then true
  else if w.isBoolean x.type != w.isBoolean y.type then false
  else if w.isString x.type != w.isString y.type then false
  else if x.isNil then w.hasNil y.type
  else if y.isNil then w.hasNil x.type
  else if w.isPointer x.type || w.isPointer y.type then false
  else true

/-- Why values of a type cannot be compared. -/
def incomparableCause (w : TypeTable) (t : Ty) : CheckM Bytes := do
  match w.under t with
  | .slice _ | .func _ | .map .. =>
    return w.kindName t ++ " can only be compared to nil"
  | .struct fs =>
    match fs.find? fun f => !w.isComparable f.type with
    | some f => return "struct containing " ++ (← showType f.type) ++ " cannot be compared"
    | none => return []
  | .array n e => return (← showType (.array n e)) ++ " cannot be compared"
  | .iface .. =>
    if (w.typeSet t).isEmpty then return "empty type set"
    return "incomparable types in type set"
  | _ => return []

/-- A comparison; in the clause of a choice the message differs. -/
def comparison (e : Expr) (x y : Operand) (op : Bytes) (inCase : Bool) : CheckM Operand := do
  let w ← table
  if x.type.isInvalid || y.type.isInvalid then return .bad e
  let fail (at_ : Operand) (why : Bytes) : CheckM Operand := do
    let generic := x.type.isParam || y.type.isParam
    let at_ := if why.isEmpty && generic && !x.type.isParam then y else at_
    let cause ← if !why.isEmpty then pure why
      else if generic then do
        pure ("type parameter " ++ (← showType at_.type) ++ " cannot use operator " ++ op)
      else do
      let kind := w.kindName at_.type
      let what ← if kind.isEmpty then showType at_.type else pure kind
      pure ("operator " ++ op ++ " not defined on " ++ what)
    if inCase then
      report x.pos ("invalid case " ++ x.expr.render ++ " in switch on " ++ y.expr.render ++ " ("
        ++ cause ++ ")")
    else
      report at_.pos (invalidOp ++ x.expr.render ++ " " ++ op ++ " " ++ y.expr.render ++ " ("
        ++ cause ++ ")")
    return .bad e
  let (fits, _) ← assignable r x y.type
  let (fits', _) ← assignable r y x.type
  if !fits && !fits' then
    return ← fail y ("mismatched types " ++ (← showType x.type) ++ " and " ++ (← showType y.type))
  if op = "==" || op = "!=" then
    if x.isNil || y.isNil then
      let t := if x.isNil then y.type else x.type
      if !w.hasNil t || (x.isNil && y.isNil) then return ← fail y []
    else if !w.isComparable x.type then return ← fail x (← incomparableCause w x.type)
    else if !w.isComparable y.type then return ← fail y (← incomparableCause w y.type)
  else if !w.isOrdered x.type then return ← fail x []
  else if !w.isOrdered y.type then return ← fail y []
  let bool : Ty := .basic .untypedBool
  if x.mode = .constant && y.mode = .constant then
    return { mode := .constant, type := bool, value := x.value.compare op y.value, expr := e }
  settleLeaves x.leaves x.type.settled
  settleLeaves y.leaves y.type.settled
  return { mode := .value, type := bool, expr := e }

/-- A shift. -/
def shift (e : Expr) (x y : Operand) (op : Bytes) (opPos : Place) : CheckM Operand := do
  let w ← table
  let whole := x.mode = .constant && x.type.isUntyped && x.value.int?.isSome
  if !(w.isInteger x.type || whole) then
    report x.pos (invalidOp ++ "shifted operand " ++ (← showOperand x) ++ " must be integer")
    return .bad e
  let y ← if y.mode = .constant then do
      match y.value.int? with
      | some n =>
        if n < 0 then
          report y.pos (invalidOp ++ "negative shift count " ++ (← showOperand y))
          return .bad e
      | none => pure ()
      -- a count of no type yet has to be in range but gets no type
      if y.type.isUntyped then checkRepresentable y .uint else pure y
    else if w.isInteger y.type then pure y
    else if y.type.isUntyped then convertUntyped y (.basic .uint)
    else do
      report y.pos (invalidOp ++ "shift count " ++ (← showOperand y) ++ " must be integer")
      return .bad e
  if !y.ok then return .bad e
  if x.mode = .constant && y.mode = .constant then
    if x.value = .unknown || y.value = .unknown then
      let t := if w.isInteger x.type then x.type else Ty.basic .untypedInt
      return { x with type := t, value := .unknown, expr := e }
    let count := y.value.int?.map Int.toNat
    let n := count.getD 0
    if count.isNone || n > 1023 - 1 + 52 then
      report y.pos (invalidOp ++ "invalid shift count " ++ (← showOperand y))
      return .bad e
    let t := if x.type.isUntyped && !w.isInteger x.type then Ty.basic .untypedInt else x.type
    return ← checkOverflow { x with type := t, value := x.value.shift (op = "<<") n, expr := e }
      opPos "shift "
  if x.mode = .constant && x.type.isUntyped then
    -- the operand gets the type the whole gets, which has to be one of integers
    let inner := constantLeaves x.type x.value x.expr
    let shifted := inner.dropLast ++ (inner.getLast?.toList.map fun l => { l with shifted := true })
    return { mode := .value, type := x.type, expr := e, pending := shifted }
  if !w.isInteger x.type then
    report x.pos (invalidOp ++ "shifted operand " ++ (← showOperand x) ++ " must be integer")
    return .bad e
  return { x with mode := .value, expr := e }

/-- How the overflow of an operation is called. -/
def opName (op : Bytes) : Bytes :=
  if op = "+" then "addition "
  else if op = "-" then "subtraction "
  else if op = "^" then "bitwise XOR "
  else if op = "*" then "multiplication "
  else if op = "<<" then "shift "
  else []

/-- **A binary operation** on two expressions. Without an expression of its own it is the
one of an assignment. -/
def binary (e : Option Expr) (lhs rhs : Expr) (opPos : Place) (op : Bytes) : CheckM Operand := do
  let whole := e.getD lhs
  let x ← expr r none lhs
  let y ← expr r none rhs
  if !x.ok || !y.ok then return .bad whole
  if op = "<<" || op = ">>" then return ← shift whole x y op opPos
  let w ← table
  let mut x := x
  let mut y := y
  if mayConvert w x y then
    x ← convertUntyped x y.type
    if !x.ok then return .bad whole
    y ← convertUntyped y x.type
    if !y.ok then return .bad whole
  if op = "==" || op = "!=" || op = "<" || op = "<=" || op = ">" || op = ">=" then
    return ← comparison r whole x y op false
  if !x.type.identical y.type then
    if !x.type.isInvalid && !y.type.isInvalid then
      let shown := match e with
        | some e => e.render
        | none => lhs.render ++ " " ++ op ++ "= " ++ rhs.render
      report x.pos (invalidOp ++ shown ++ " (mismatched types " ++ (← showType x.type) ++ " and "
        ++ (← showType y.type) ++ ")")
    return .bad whole
  if !(← checkOp x op false) then return .bad whole
  if op = "/" || op = "%" then
    let zero := y.mode = .constant && y.value.isZero
    if zero && (x.mode = .constant || w.isInteger x.type) then
      report y.pos (invalidOp ++ "division by zero")
      return .bad whole
  if x.mode = .constant && y.mode = .constant then
    if x.value = .unknown || y.value = .unknown then
      return { x with value := .unknown, expr := whole }
    let v := Const.binary op (w.isInteger x.type) x.value y.value
    return ← checkOverflow { x with value := v, expr := whole } opPos (opName op)
  return { mode := .value, type := x.type, expr := whole, pending := x.leaves ++ y.leaves }

/-! ## Selectors -/

/-- The part of a name behind its first character. -/
def tail (s : Bytes) : Bytes :=
  match Utf8.next? s with
  | some c => s.drop c.raw.length
  | none => []

/-- Why a type has no field or method of a name: what it has instead, if that is close. -/
def lookupError (t : Ty) (sel : Bytes) (other : Option (Bytes × Bytes × Bytes))
    (structLit : Bool) : CheckM Bytes := do
  let shown ← showType t
  let here := (← get).path
  let missing : Bytes :=
    if structLit then "unknown field " ++ sel ++ " in struct literal of type " ++ shown
    else "type " ++ shown ++ " has no field or method " ++ sel
  match other with
  | none => return missing
  | some (what, name, pkg) =>
    let kind : Bytes := if structLit then [] else what ++ " "
    let misspelled := missing ++ ", but does have " ++ kind ++ name
    if pkg = here then return misspelled
    else if isExported sel then
      if isExported name then return misspelled
      else if tail name = tail sel then
        return missing ++ ", but does have unexported " ++ kind ++ name
      else return missing
    else if isExported name then
      if tail name = tail sel then return misspelled else return missing
    else if name = sel then
      if structLit then
        return "cannot refer to unexported field " ++ sel ++ " in struct literal of type " ++ shown
      else return "cannot refer to unexported " ++ what ++ " " ++ sel
    else return missing

/-- What a name of an imported package stands for. -/
def qualified (e : Expr) (sel : Name) (i : Nat) : CheckM Operand := do
  useImport i
  let s ← get
  let imp := (s.imports[i]?).getD default
  if imp.fake then return .bad e
  match s.packages.find? fun p => p.path = imp.path with
  | none => return .bad e
  | some p =>
    match p.object? sel.text with
    | none =>
      let close := p.objects.find? fun o => isExported o.1 && CharClass.equalFold o.1 sel.text
      let hint : Bytes := match close with
        | some (n, _) => " (but have " ++ n ++ ")"
        | none => []
      report sel.pos ("undefined: " ++ e.render ++ hint)
      return .bad e
    | some o =>
      if !isExported sel.text then
        report sel.pos ("name " ++ sel.text ++ " not exported by package " ++ p.name)
      return objectOperand e o

/-- The parameters and results of a method, with its declaration checked first. -/
def methodSig (m : Method) : CheckM Sig := do
  match m.decl with
  | none => return m.sig
  | some i =>
    (r ()).object i
    let o ← getObj i
    match o.type with
    | some (.func sig) => return sig.subst (o.receiverParams.zip m.args)
    | _ => return m.sig

/-- **A selector**: a name of a package, or a field or method of a value. -/
def selector (e : Expr) (arg : Expr) (sel : Name) : CheckM Operand := do
  let imported ← match arg with
    | .ident n =>
      match ← lookupName n.text with
      | some (.imported i) => pure (some i)
      | _ => pure none
    | _ => pure none
  match imported with
  | some i => qualified e sel i
  | none =>
    let x ← exprOrType r arg
    if !x.ok then return .bad e
    if x.mode = .builtin then
      report x.pos ("invalid use of " ++ (← showOperand x) ++ " in selector expression")
      return .bad e
    if sel.text = "_" then
      report sel.pos "cannot refer to blank field or method"
      return .bad e
    if !(← complete x.type) then return .bad e
    let s ← get
    let w := s.types
    match w.select x.type (x.mode = .variable) s.path sel.text false with
    | .ambiguous =>
      report sel.pos ("ambiguous selector " ++ arg.render ++ "." ++ sel.text)
      return .bad e
    | .needsPointer =>
      let t ← showType x.type
      if x.mode = .typeExpr then
        report sel.pos ("invalid method expression " ++ t ++ "." ++ sel.text
          ++ " (needs pointer receiver (*" ++ t ++ ")." ++ sel.text ++ ")")
      else report sel.pos ("cannot call pointer method " ++ sel.text ++ " on " ++ t)
      return .bad e
    | .missing =>
      if (w.under x.type).isInvalid then return .bad e
      let why : Bytes ← if w.isInterfacePointer x.type then pointerNote w x.type else do
          let other := match w.select x.type (x.mode = .variable) s.path sel.text true with
            | .found (.field f _) => some (Bytes.ofString "field", f.name, f.pkg)
            | .found (.method m _ _) => some (Bytes.ofString "method", m.name, m.pkg)
            | _ => none
          lookupError x.type sel.text other false
      report sel.pos (arg.render ++ "." ++ sel.text ++ " undefined (" ++ why ++ ")")
      return .bad e
    | .found (.field f indirect) =>
      if x.mode = .typeExpr then
        report sel.pos ("operand for field selector " ++ sel.text ++ " must be value of type "
          ++ (← showType x.type))
        return .bad e
      let mode : Mode := if x.mode = .variable || indirect then .variable else .value
      return { mode, type := f.type, expr := e }
    | .found (.method m _ _) =>
      let sig ← methodSig r m
      match m.decl with
      | some i => addDep i
      | none => pure ()
      if x.mode = .typeExpr then
        -- the receiver has a name if the other parameters have
        let named := (sig.params.head?.map fun p => !p.name.isEmpty).getD false
        let name : Bytes := if !named then [] else if m.receiver.isEmpty then "_" else m.receiver
        let sig' := Sig.mk [] (.mk name x.type :: sig.params) sig.results sig.variadic
        return { mode := .value, type := .func sig', expr := e }
      return { mode := .value, type := .func sig, expr := e }

/-! ## Indices and slices -/

/-- Whether an operand can be an index. -/
def validIndex (x : Operand) : CheckM (Option Operand) := do
  if !x.ok then return none
  let x ← convertUntyped x (.basic .int)
  if !x.ok then return none
  let refused (why : Bytes) : CheckM (Option Operand) := do
    report x.pos (invalidArg ++ "index " ++ (← showOperand x) ++ why)
    return none
  if !(← table).isInteger x.type then return ← refused " must be integer"
  match x.mode, x.value.int? with
  | .constant, some n =>
    if n < 0 then refused " must not be negative"
    else if !fitsInt .int n then refused " overflows int"
    else return some x
  | _, _ => return some x

/-- **An index**, below a length if there is one: none if it is wrong, and its value if it
is known. -/
def indexValue (e : Expr) (max : Option Nat) : CheckM (Option (Option Nat)) := do
  let x ← expr r none e
  match ← validIndex x with
  | none => return none
  | some x =>
    match x.mode, x.value.int? with
    | .constant, some v =>
      match max with
      | some n =>
        if v ≥ n then
          report x.pos (invalidArg ++ "index " ++ x.value.render ++ " out of bounds [0:"
            ++ Bytes.ofNat n ++ "]")
          return none
        return some (some v.toNat)
      | none => return some (some v.toNat)
    | .constant, none => return none
    | _, _ => return some none

/-- What an index into a value gives. -/
structure Indexed where
  /-- The type of keys, if the value is a map. -/
  key : Option Ty := none
  /-- The type of elements. -/
  elem : Ty
  /-- The kind of thing an element is. -/
  mode : Mode := .variable
  /-- The number of elements, if it is known. -/
  length : Option Nat := none

/-- What an index gives for a type under that of the value. -/
def indexed? (w : TypeTable) (x : Operand) : Ty → Option Indexed
  | .basic b =>
    if b.isString then
      let length := match x.mode, x.value with
        | .constant, .text s => some s.length
        | _, _ => none
      some { elem := .basic .byte, mode := .value, length }
    else none
  | .array n t =>
    some { elem := t, mode := if x.mode = .variable then .variable else .value, length := n }
  | .pointer p =>
    match w.under p with
    | .array n t => some { elem := t, length := n }
    | _ => none
  | .slice t => some { elem := t }
  | .map k t => some { key := some k, elem := t, mode := .mapIndex }
  | _ => none

/-- What an index gives for all types that a value can have: the same everywhere, below the
least length. -/
def indexedAll? (w : TypeTable) (x : Operand) : Option Indexed := do
  let parts ← (w.specific x.type).mapM fun u => u.bind fun u => indexed? w x u.2
  match parts with
  | [] => none
  | first :: rest =>
    let sameKey (a b : Option Ty) : Bool := match a, b with
      | none, none => true
      | some a, some b => a.identical b
      | _, _ => false
    if rest.all fun i => sameKey first.key i.key && first.elem.identical i.elem then
      let lengths := parts.filterMap Indexed.length
      let mode := if first.key.isSome then .mapIndex
        else if parts.any fun i => i.mode = .value then .value else .variable
      some { first with mode, length := lengths.foldl (fun m n => some (min (m.getD n) n)) none }
    else none

/-- An index, or a generic function with type arguments that is still to be given types. -/
def index (e : Expr) (arg : Expr) (indices : List Expr) : CheckM (Operand × Bool) := do
  let x ← exprOrGeneric r arg
  let done (x : Operand) : CheckM (Operand × Bool) := return (x, false)
  if !x.ok then
    let _ ← use r indices
    return ← done (.bad e)
  if x.mode = .typeExpr then
    let t ← varType r e
    if t.isInvalid then return ← done (.bad e)
    return ← done { mode := .typeExpr, type := t, expr := e }
  if x.mode = .value then
    match ← under x.type with
    | .func sig => if sig.isGeneric then return (x, true)
    | _ => pure ()
  let x ← nonGeneric x
  if !x.ok then return ← done (.bad e)
  if !(← complete x.type) then return ← done (.bad e)
  match indexedAll? (← table) x with
  | none =>
    report x.pos ("cannot index " ++ (← showOperand x))
    let _ ← use r indices
    done (.bad e)
  | some i =>
    match indices[1]? with
    | some second => report second.pos (invalidOp ++ "more than one index")
    | none => pure ()
    match indices.head?, i.key with
    | some k, some key =>
      let y ← expr r none k
      let _ ← assign r y (some key) "map index"
    | some k, none =>
      let _ ← indexValue r k i.length
    | none, _ => pure ()
    done { mode := i.mode, type := i.elem, expr := e }

/-- The type arguments that are written, if all of them are right. -/
def typeList (es : List Expr) : CheckM (Option (List Ty)) := do
  let mut out : Option (List Ty) := some []
  for e in es do
    let t ← varType r e
    out := if t.isInvalid then none else out.map (· ++ [t])
  return out

/-- What a generic function is used as: a function type, and what messages call it. -/
structure Target where
  /-- The function type. -/
  sig : Sig
  /-- What messages call it. -/
  label : Bytes

/-- The function type that a value is wanted as, if it is one. -/
def target? (t : Option Ty) (label : Bytes) : CheckM (Option Target) := do
  match t with
  | none => return none
  | some t =>
    match ← under t with
    | .func sig => return some ⟨sig, label⟩
    | _ => return none

/-- **An instance of a generic function**, with the type arguments that are written. Missing
ones are inferred from what the function is used as; if `infer` is not set they are given
back instead. -/
def instantiate (target : Option Target) (x : Operand) (written : List Expr) (inferring : Bool) :
    CheckM (Operand × Option (List Ty)) := do
  let sig := match x.type with
    | .func s => s
    | _ => default
  match ← typeList r written with
  | none => return (.bad x.expr, none)
  | some types =>
    let want := sig.typeParams.length
    if want < types.length then
      report ((written.getLast?.map Expr.pos).getD x.pos) ("got " ++ Bytes.ofNat types.length
        ++ " type arguments but " ++ x.expr.render ++ " has " ++ Bytes.ofNat want
        ++ " type parameters")
      return (.bad x.expr, none)
    let places := written.map Expr.pos
    if types.length = want then
      let s ← instantiateSig x.pos sig types places
      return ({ x with type := .func s, mode := .value }, none)
    if !inferring then return (x, some types)
    let (fresh, m) ← renameParams sig.typeParams
    let plain := Sig.mk [] sig.params sig.results sig.variadic
    let (params, args) := match target with
      | some t =>
        ([(Ty.func plain).subst m],
          [({ mode := .value, type := .func t.sig, expr := .ident ⟨x.pos, t.label⟩ } : Operand)])
      | none => ([], [])
    let found ← infer r x.pos fresh (types.map some) params args true
    forgetParams fresh
    match found with
    | .ok types =>
      let s ← instantiateSig x.pos sig types places
      return ({ x with type := .func s, mode := .value }, none)
    | .error why =>
      match why with
      | some (p, msg) => report p msg
      | none => pure ()
      return (.bad x.expr, none)

/-- An index, or an instance of a generic function. -/
def indexExpr (target : Option Target) (e : Expr) (arg : Expr) (indices : List Expr) :
    CheckM Operand := do
  let (x, generic) ← index r e arg indices
  if !generic then return x
  return (← instantiate r target { x with expr := e } indices true).1

/-- **A single value for a type**, which a generic function takes its types from. -/
def exprFor (wanted : Option Ty) (label : Bytes) (e : Expr) : CheckM Operand := do
  match ← target? wanted label with
  | none => expr r none e
  | some t =>
    let x ← match e with
      | .index arg indices => do pure { ← indexExpr r (some t) e arg indices with expr := e }
      | e => do pure (← rawGeneric r none e).1
    let x ← match genericKind? (← table) x with
      | some what =>
        if what = "function" then pure (← instantiate r (some t) x [] true).1 else nonGeneric x
      | none => pure x
    singleValue (← exclude x true true true)

/-- The first two of several bounds that are known and in the wrong order, with the number
of the second. -/
def swapped? : Nat → List (Option Nat) → Option (Nat × Nat × Nat)
  | _, [] => none
  | k, none :: rest => swapped? (k + 1) rest
  | k, some a :: rest =>
    let later := rest.zipIdx.findSome? fun (b, i) =>
      match b with
      | some b => if b < a then some (k + 1 + i, b, a) else none
      | none => none
    match later with
    | some found => some found
    | none => swapped? (k + 1) rest

/-- A slice. -/
def slice (e : Expr) (arg : Expr) (lo hi max : Option Expr) (full : Bool) : CheckM Operand := do
  let x ← expr r none arg
  let bounds := [lo, hi, max].filterMap id
  if !x.ok then
    let _ ← use r bounds
    return .bad e
  let w ← table
  let refuse (why : Bytes) : CheckM Operand := do
    let tail : Bytes := if why.isEmpty then [] else ": " ++ why
    report x.pos ("cannot slice " ++ (← showOperand x) ++ tail)
    return .bad e
  -- texts count as slices of bytes among the types of a type parameter
  let parts := w.specific x.type
  let asSlice (u : Ty) : Ty := if w.isString u then .slice (.basic .byte) else u
  let mut shared : Option (Ty × Ty) := none
  for part in parts do
    match part, shared with
    | none, _ => return ← refuse ("no specific type in " ++ (← showType x.type))
    | some (t, u), none => shared := some (t, asSlice u)
    | some (t, u), some (t', u') =>
      if !u'.identical (asSlice u) then
        return ← refuse ((← showType t') ++ " and " ++ (← showType t)
          ++ " have different underlying types")
  let anyText := parts.any fun u => (u.map fun u => w.isString u.2).getD false
  let base := if !anyText then (shared.map Prod.snd).getD .invalid
    else if x.type.isParam then Ty.basic .string else w.under x.type
  let (t, length) ← match base with
    | .basic b =>
      if b.isString then
        if full then
          report ((max.map Expr.pos).getD e.pos) (invalidOp ++ "3-index slice of string")
          return .bad e
        let n := match x.mode, x.value with
          | .constant, .text s => some s.length
          | _, _ => none
        pure (if x.type.isUntyped then Ty.basic .string else x.type, n)
      else return ← refuse []
    | .array n t =>
      if x.mode ≠ .variable then
        report x.pos ("cannot slice unaddressable value " ++ (← showOperand x))
        return .bad e
      pure (Ty.slice t, n)
    | .pointer p =>
      match w.under p with
      | .array n t => pure (Ty.slice t, n)
      | _ => return ← refuse []
    | .slice _ => pure (x.type, none)
    | _ => return ← refuse []
  let mut known : List (Option Nat) := []
  for (b, omitted) in [(lo, some 0), (hi, length), (max, length)] do
    let v ← match b with
      | some b => do pure ((← indexValue r b (length.map (· + 1))).getD none)
      | none => pure omitted
    known := known ++ [v]
  match swapped? 0 known with
  | some (i, b, a) =>
    let at_ := (([lo, hi, max][i]?).getD none).getD e
    report at_.pos ("invalid slice indices: " ++ Bytes.ofNat b ++ " < " ++ Bytes.ofNat a)
  | none => pure ()
  return { mode := .value, type := t, expr := e }

/-- A type assertion. -/
def assertion (e : Expr) (arg : Expr) (type : Option Expr) : CheckM Operand := do
  let x ← expr r none arg
  if !x.ok then return .bad e
  match type with
  | none =>
    report e.pos "use of .(type) outside type switch"
    return .bad e
  | some te =>
    let w ← table
    if x.type.isParam then
      report x.pos (invalidOp ++ "cannot use type assertion on type parameter value "
        ++ (← showOperand x))
      return .bad e
    if !w.isInterface x.type then
      report x.pos (invalidOp ++ (← showOperand x) ++ " is not an interface")
      return .bad e
    let t ← varType r te
    if t.isInvalid then return .bad e
    if !w.isInterface t then
      ensureMethods r 4 t
      match (← table).lacks? t x.type with
      | some l =>
        report e.pos ("impossible type assertion: " ++ e.render ++ "\n\t" ++ (← showType t)
          ++ " does not implement " ++ (← showType x.type) ++ " " ++ (← showLack t l))
      | none => pure ()
    return { mode := .commaOk, type := t, expr := e }

/-! ## Composite literals -/

/-- The elements of an array or slice literal; how many there are. -/
def elements (es : List Expr) (elem : Ty) (length : Option Nat) : CheckM Nat := do
  let mut at_ : Nat := 0
  let mut max : Nat := 0
  let mut seen : List Nat := []
  for e in es do
    let mut valid := false
    match e with
    | .keyValue k _ =>
      match ← indexValue r k length with
      | some (some n) =>
        at_ := n
        valid := true
      | some none => report e.pos ("index " ++ k.render ++ " must be integer constant")
      | none => pure ()
    | _ =>
      match length with
      | some n =>
        if at_ ≥ n then
          report e.pos ("index " ++ Bytes.ofNat at_ ++ " is out of bounds (>= " ++ Bytes.ofNat n
            ++ ")")
        else valid := true
      | none => valid := true
    if valid then
      if seen.contains at_ then
        report e.pos ("duplicate index " ++ Bytes.ofNat at_ ++ " in array or slice literal")
      seen := at_ :: seen
    let value := match e with
      | .keyValue _ v => v
      | v => v
    let x ← expr r (some elem) value
    let _ ← assign r x (some elem) "array or slice literal"
    at_ := at_ + 1
    if max < at_ then max := at_
  return max

/-- The elements of a structure literal. -/
def structElements (e : Expr) (es : List Expr) (rbrace : Place) (base : Ty) (fs : List FieldTy) :
    CheckM Unit := do
  let here := (← get).path
  let mixed (p : Place) : CheckM Unit :=
    report p "mixture of field:value and value elements in struct literal"
  match es with
  | [] => return ()
  | .keyValue .. :: _ =>
    let mut seen : List Bytes := []
    for el in es do
      match el with
      | .keyValue k v =>
        let x ← expr r none v
        match k with
        | .ident n =>
          match fs.find? fun f => sameName n.text here f.name f.pkg with
          | none =>
            let similar := fs.find? fun f => CharClass.equalFold f.name n.text
            let other := similar.map fun (f : FieldTy) => (Bytes.ofString "field", f.name, f.pkg)
            report k.pos (← lookupError base n.text other true)
          | some f =>
            let _ ← assign r x (some f.type) "struct literal"
            if seen.contains n.text then
              report el.pos ("duplicate field name " ++ n.text ++ " in struct literal")
            seen := n.text :: seen
        | _ => report el.pos ("invalid field name " ++ k.render ++ " in struct literal")
      | _ => mixed el.pos
  | _ =>
    let mut rest := fs
    let mut tooMany := false
    for el in es do
      match el with
      | .keyValue .. =>
        mixed el.pos
        rest := rest.drop 1
      | _ =>
        if !tooMany then
          let x ← expr r none el
          match rest with
          | [] =>
            report el.pos ("too many values in struct literal of type " ++ (← showType base))
            tooMany := true
          | f :: more =>
            rest := more
            if !isExported f.name && f.pkg ≠ here then
              report x.pos ("implicit assignment to unexported field " ++ f.name
                ++ " in struct literal of type " ++ (← showType base))
            else
              let _ ← assign r x (some f.type) "struct literal"
    if es.length < fs.length then
      let hidden := fs.any fun (f : FieldTy) => !isExported f.name && f.pkg ≠ here
      let hint : Bytes :=
        if hidden then " (type has unexported fields - use key:value pairs)" else []
      report rbrace ("too few values in struct literal of type " ++ (← showType base) ++ hint)
    let _ := e

/-- The elements of a map literal. Constant keys have to differ; if the keys are of an
interface type, constants of different types do. -/
def mapElements (es : List Expr) (key elem : Ty) : CheckM Unit := do
  let byType := (← table).isPlainInterface key
  let mut seen : List (Const × Ty) := []
  for e in es do
    match e with
    | .keyValue k v =>
      let x ← expr r (some key) k
      let x ← assign r x (some key) "map literal"
      if x.ok then
        let same (s : Const × Ty) : Bool :=
          s.1 = x.value.key && (!byType || s.2.identical x.type)
        let duplicate := x.mode = .constant && seen.any same
        if x.mode = .constant then seen := (x.value.key, x.type) :: seen
        if duplicate then
          report x.pos ("duplicate key " ++ x.value.render ++ " in map literal")
        else
          let y ← expr r (some elem) v
          let _ ← assign r y (some elem) "map literal"
    | e => report e.pos "missing key in map literal"

/-- **A composite literal**; without a type of its own it takes the one suggested. -/
def composite (e : Expr) (type : Option Expr) (es : List Expr) (rbrace : Place)
    (hint : Option Ty) : CheckM Operand := do
  let w ← table
  let (t, base, isElem, counted) ← match type, hint with
    | some (.arrayType _ (some (.ellipsis _ none)) elem), _ => do
      let t ← varType r elem
      pure (Ty.array none t, Ty.array none t, false, true)
    | some te, _ => do
      let t ← (r ()).type te
      pure (t, t, false, false)
    | none, some h =>
      let base := match w.common? h with
        | some (.pointer b) => b
        | _ => h
      pure (h, base, true, false)
    | none, none => do
      report e.pos "missing type in composite literal"
      pure (Ty.invalid, Ty.invalid, false, false)
  if !(← complete base) then return .bad e
  let common := (← table).common? base
  match common.getD (.iface [] []) with
  | .struct fs =>
    structElements r e es rbrace base fs
    return { mode := .value, type := t, expr := e }
  | .array n elem =>
    let count ← elements r es elem (if counted then none else n)
    let t := if counted then Ty.array (some count) elem else t
    return { mode := .value, type := t, expr := e }
  | .slice elem =>
    let _ ← elements r es elem none
    return { mode := .value, type := t, expr := e }
  | .map key elem =>
    mapElements r es key elem
    return { mode := .value, type := t, expr := e }
  | u =>
    let _ ← use r es
    if u.isInvalid then return { mode := .value, type := t, expr := e }
    let what : Bytes := if isElem then " element" else []
    let why : Bytes := if common.isNone then " (no common underlying type)" else []
    report e.pos ("invalid composite literal" ++ what ++ " type " ++ (← showType t) ++ why)
    return .bad e

end

end Stencil.Host.Check
