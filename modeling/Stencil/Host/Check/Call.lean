import Stencil.Host.Check.Expr

/-!
# Calls

A call is a conversion if a type stands in front of the parentheses, a use of a
predeclared function, or a call of a function value. The arguments of a call are checked
before their number is compared with the parameters, so that problems inside the
arguments come first.
-/

namespace Stencil.Host.Check

open Bytes

/-- One type in the summary of arguments or parameters: all numbers without a type look
alike. -/
def summarize (t : Ty) : CheckM Bytes := do
  if t.isInvalid then return "unknown type"
  match t with
  | .basic b =>
    if b.isUntyped then
      if b.isNumeric then return "number" else return trimPrefix b.name "untyped "
    return b.name
  | t => showType t

/-- The types of arguments or parameters in parentheses. The last parameter of a variadic
function is shown by its element, and a spread argument keeps its dots. -/
def typesSummary (ts : List Ty) (variadic spread : Bool) : CheckM Bytes := do
  let mut parts : List Bytes := []
  let mut left := ts.length
  for t in ts do
    left := left - 1
    let part ← do
      if left = 0 && variadic then
        match t with
        | .slice e => pure ("..." ++ (← showType e))
        | t => pure ("..." ++ (← summarize t))
      else if left = 0 && spread then pure ((← summarize t) ++ "...")
      else summarize t
    parts := parts ++ [part]
  return "(" ++ join ", " parts ++ ")"

section

variable (r : Unit → Rules)

/-- The values of a list of arguments; a single call can stand for all of them. -/
def arguments (args : List Expr) : CheckM (List Operand) := do
  match args with
  | [e] =>
    let x ← anyValue r none e
    match x.mode, x.type with
    | .value, .tuple ts => return callResults e ts
    | _, _ => return [x]
  | args => args.mapM fun e => expr r none e

/-- An argument, which may be a generic function, with the type arguments written for it. -/
structure Argument where
  /-- The value. -/
  operand : Operand
  /-- The type arguments that are written for a generic function. -/
  types : List Ty := []

/-- One argument of a call. -/
def genericArgument (e : Expr) : CheckM Argument := do
  match e with
  | .index arg indices =>
    let (x, generic) ← index r e arg indices
    let x := { x with expr := e }
    if !generic then return { operand := ← exclude (← nonGeneric x) true true true }
    let (y, types) ← instantiate r none x indices false
    return { operand := y, types := types.getD [] }
  | e =>
    let (x, _) ← rawGeneric r none e
    let x ← match genericKind? (← table) x with
      | some what => if what = "function" then pure x else nonGeneric x
      | none => pure x
    return { operand := ← exclude x true true true }

/-- The arguments of a call, which may be generic functions; a single call can stand for all
of them. -/
def genericArguments (args : List Expr) : CheckM (List Argument) := do
  match args with
  | [e] =>
    let a ← genericArgument r e
    match a.operand.mode, a.operand.type with
    | .value, .tuple ts => return (callResults e ts).map fun x => { operand := x }
    | _, _ => return [a]
  | args =>
    args.mapM fun e => do
      let a ← genericArgument r e
      return { a with operand := ← singleValue a.operand }

/-- The types that arguments are passed to, if their number is right: the last parameter of
a variadic function takes all further ones. -/
def parameterTypes (sig : Sig) (spread : Bool) (n : Nat) : List Ty :=
  let params := sig.params.map ParamTy.type
  let fixed := params.dropLast
  if !sig.variadic || spread then params
  else if fixed.length ≤ n then
    let elem := match params.getLast? with
      | some (.slice e) => e
      | _ => Ty.invalid
    fixed ++ List.replicate (n - fixed.length) elem
  else fixed

/-- Infers the type arguments of a generic function, and of generic functions among its
arguments. The instance, and the arguments with their types; none if that fails. -/
def inferCall (call fn : Expr) (sig : Sig) (types : List Ty) (written : List Expr)
    (targets : List Ty) (args : List Argument) :
    CheckM (Option (Sig × List Ty × List Operand)) := do
  let operands := args.map Argument.operand
  let isGeneric (x : Operand) : Bool := match x.type with
    | .func s => s.isGeneric
    | _ => false
  if !sig.isGeneric && !operands.any isGeneric then return some (sig, targets, operands)
  let (own, m) ← renameParams sig.typeParams
  let n := own.length
  let mut params := own
  let mut given := types.map some ++ List.replicate (n - types.length) none
  let mut renamed : List Operand := []
  for a in args do
    match a.operand.type with
    | .func s =>
      if s.isGeneric then
        let (fresh, m) ← renameParams s.typeParams
        let s' := (Sig.mk [] s.params s.results s.variadic).subst m
        params := params ++ fresh
        given := given ++ a.types.map some
          ++ List.replicate (fresh.length - a.types.length) none
        renamed := renamed ++ [{ a.operand with
          type := .func (.mk fresh s'.params s'.results s'.variadic) }]
      else renamed := renamed ++ [a.operand]
    | _ => renamed := renamed ++ [a.operand]
  let found ← infer r call.pos params given (targets.map (Ty.subst m)) renamed false
  forgetParams params
  match found with
  | .error why =>
    match why with
    | some (p, msg) => report p ("in call to " ++ fn.render ++ ", " ++ msg)
    | none => pure ()
    return none
  | .ok all =>
    let inst ← if sig.isGeneric then
        instantiateSig call.pos sig (all.take n) (written.map Expr.pos)
      else pure sig
    let subst : Substitution := (sig.typeParams.map TypeParam.id).zip all
    let mut rest := all.drop n
    let mut out : List Operand := []
    for x in renamed do
      match x.type with
      | .func s =>
        let k := s.typeParams.length
        if 0 < k then
          let s' ← instantiateSig call.pos s (rest.take k) []
          out := out ++ [{ x with type := .func s' }]
          rest := rest.drop k
        else out := out ++ [x]
      | _ => out := out ++ [x]
    return some (inst, targets.map (Ty.subst subst), out)

/-- **Passes arguments to parameters.** The number of arguments is compared first, missing
type arguments are inferred, and each argument is then assigned to its parameter. The
signature with its types is given back. -/
def passArguments (call fn : Expr) (written : List Expr) (spread : Bool) (rparen : Place)
    (sig : Sig) (types : List Ty) (typesWritten : List Expr) (args : List Argument) :
    CheckM Sig := do
  let n := args.length
  if sig.variadic && spread && written.length = 1 && 1 < n then
    report rparen ("cannot use ... with " ++ Bytes.ofNat n ++ "-valued "
      ++ ((written.head?.map Expr.render).getD []))
    return sig
  if !sig.variadic && spread then
    report rparen ("cannot use ... in call to non-variadic " ++ fn.render)
    return sig
  let targets := parameterTypes sig spread n
  if n ≠ targets.length then
    let tooMany := targets.length < n
    let at_ : Place :=
      if tooMany then ((args[targets.length]?).map fun a => a.operand.pos).getD rparen else rparen
    let what : Bytes := if tooMany then "too many" else "not enough"
    let given := args.map fun a => a.operand.type
    report at_ (what ++ " arguments in call to " ++ fn.render
      ++ "\n\thave " ++ (← typesSummary given false spread)
      ++ "\n\twant " ++ (← typesSummary (sig.params.map ParamTy.type) sig.variadic false))
    return sig
  match ← inferCall r call fn sig types typesWritten targets args with
  | none => return sig
  | some (inst, targets, operands) =>
    for (a, t) in operands.zip targets do
      let _ ← assign r a (some t) ("argument to " ++ fn.render)
    return inst

/-! ## Predeclared functions -/

/-- How many arguments a predeclared function takes at least, whether it takes more, and
what its use is. -/
def builtinShape (name : Bytes) : Nat × Bool × ExprKind :=
  if name = "append" then (1, true, .expression)
  else if name = "make" || name = "max" || name = "min" then (1, true, .expression)
  else if name = "cap" || name = "len" || name = "new" || name = "imag" || name = "real" then
    (1, false, .expression)
  else if name = "complex" then (2, false, .expression)
  else if name = "copy" || name = "delete" then (2, false, .statement)
  else if name = "print" || name = "println" then (0, true, .statement)
  else if name = "recover" then (0, false, .statement)
  else (1, false, .statement)

/-- The element type of a slice operand, or what the argument is instead. -/
def sliceElem (x : Operand) : CheckM (Except Bytes Ty) := do
  let mut elem : Option Ty := none
  for part in (← table).specific x.type do
    match part, elem with
    | some (_, .slice e), none => elem := some e
    | some (_, .slice e), some e' =>
      if !e'.identical e then
        return .error ("mismatched slice element types " ++ (← showType e') ++ " and "
          ++ (← showType e) ++ " in " ++ (← showOperand x))
    | _, _ =>
      if x.isNil then return .error "argument must be a slice; have untyped nil"
      else return .error ("argument must be a slice; have " ++ (← showOperand x))
  match elem with
  | some e => return .ok e
  | none => return .error ("argument must be a slice; have " ++ (← showOperand x))

/-- Whether an operand is a text, or one of texts and slices of bytes. -/
def isTextLike (w : TypeTable) (t : Ty) : Bool :=
  let parts := w.specific t
  let isText (u : Option (Ty × Ty)) : Bool := (u.map fun u => w.isString u.2).getD false
  let isBytes (u : Option (Ty × Ty)) : Bool := match u with
    | some (_, .slice e) => e.identical (.basic .byte)
    | _ => false
  parts.any isText && parts.all fun u => isText u || isBytes u

/-- Whether text can be appended or copied to an operand as bytes. -/
def takesText (x y : Operand) : CheckM Bool := do
  let (bytes, _) ← assignable r x (.slice (.basic .byte))
  return bytes && !x.isNil && isTextLike (← table) y.type

/-- The length or capacity of an operand. -/
def lengthOf (e : Expr) (name : Bytes) (x : Operand) (pure_ : Bool) : CheckM Operand := do
  let w ← table
  let isLen := name = "len"
  let int : Ty := .basic .int
  let value : Operand := { mode := .value, type := int, expr := e }
  let array (n : Option Nat) : Operand :=
    match n with
    | some k =>
      if pure_ then { mode := .constant, type := int, value := .ofInt k, expr := e } else value
    | none => value
  let refused : CheckM Operand := do
    if !(w.under x.type).isInvalid then
      report x.pos (invalidArg ++ (← showOperand x) ++ " for built-in " ++ name)
    return .bad e
  let measurable (u : Ty) : Bool := match u with
    | .basic b => b.isString && isLen
    | .array .. | .slice _ | .chan .. => true
    | .pointer p =>
      match w.under p with
      | .array .. => true
      | _ => false
    | .map .. => isLen
    | _ => false
  if !w.underIs measurable x.type then return ← refused
  match w.under x.type with
  | .basic _ =>
    match x.mode, x.value with
    | .constant, .text s =>
      return { mode := .constant, type := int, value := .ofInt s.length, expr := e }
    | _, _ => return value
  | .array n _ => return array n
  | .pointer p =>
    match w.under p with
    | .array n _ => return array n
    | _ => return value
  | _ => return value

/-- The smallest or largest of several operands. -/
def extremum (e : Expr) (name : Bytes) (args : List Operand) : CheckM Operand := do
  let mut x : Operand := .bad e
  let mut first := true
  for a in args do
    let w ← table
    if !w.isOrdered a.type then
      report a.pos (invalidArg ++ (← showOperand a) ++ " cannot be ordered")
      return .bad e
    if first then
      x := a
      first := false
    else
      let mut a := a
      if mayConvert w x a then
        x ← convertUntyped x a.type
        if !x.ok then return .bad e
        a ← convertUntyped a x.type
        if !a.ok then return .bad e
      if !x.type.identical a.type then
        report a.pos (invalidArg ++ "mismatched types " ++ (← showType x.type)
          ++ " (previous argument) and " ++ (← showType a.type) ++ " (type of " ++ a.expr.render
          ++ ")")
        return .bad e
      if x.mode = .constant && a.mode = .constant then
        let op : Bytes := if name = "min" then "<" else ">"
        if a.value.compare op x.value = .bool true then x := a
      else x := { x with mode := .value, pending := x.leaves ++ a.leaves }
  if x.mode = .constant then return { x with expr := e }
  let y ← assign r { x with mode := .value } (some (.iface [] [])) ("argument to built-in " ++ name)
  return { y with expr := e }

/-- A use of `make`. -/
def makeCall (e : Expr) (type : Expr) (rest : List Expr) : CheckM Operand := do
  let t ← varType r type
  if t.isInvalid then return .bad e
  let refuse : Option (Ty × Ty) → Option Bytes
    | some (_, .slice _) | some (_, .map ..) | some (_, .chan ..) => none
    | none => some "no specific type"
    | _ => some "type must be slice, map, or channel"
  let least ← match (← table).commonUnder refuse t with
    | .ok (.slice _) => pure 2
    | .ok _ => pure 1
    | .error d =>
      report type.pos (invalidArg ++ "cannot make " ++ type.render ++ ": " ++ (← showDiscord d))
      return .bad e
  let n := rest.length + 1
  if n < least || least + 1 < n then
    report e.pos (invalidOp ++ e.render ++ " expects " ++ Bytes.ofNat least ++ " or "
      ++ Bytes.ofNat (least + 1) ++ " arguments; found " ++ Bytes.ofNat n)
    return .bad e
  let sizes ← rest.mapM fun s => indexValue r s none
  match sizes with
  | [some (some a), some (some b)] =>
    if b < a then
      report ((rest.head?.map Expr.pos).getD e.pos) (invalidArg ++ "length and capacity swapped")
  | _ => pure ()
  return { mode := .value, type := t, expr := e }

/-- A use of `copy` between slices. A text as the source counts as bytes. -/
def copyCall (e : Expr) (x y : Operand) : CheckM Operand := do
  let elem (z : Operand) (textOk : Bool) : CheckM (Option Ty) := do
    match ← sliceElem z with
    | .ok t => return some t
    | .error why =>
      if textOk && (← table).isString z.type then return some (.basic .byte)
      report z.pos ("invalid copy: " ++ why)
      return none
  match ← elem x false with
  | none => return .bad e
  | some a =>
    match ← elem y true with
    | none => return .bad e
    | some b =>
      if a.identical b then return { mode := .value, type := .basic .int, expr := e }
      report x.pos ("invalid copy: arguments " ++ (← showOperand x) ++ " and "
        ++ (← showOperand y) ++ " have different element types " ++ (← showType a) ++ " and "
        ++ (← showType b))
      return .bad e

/-- A constant real number as a fraction of no type yet. -/
def asFraction (w : TypeTable) (x : Operand) : Operand :=
  if w.isNumeric x.type && x.value.real?.isSome then { x with type := .basic .untypedFloat } else x

/-- A use of `complex`. -/
def complexCall (e : Expr) (x y : Operand) : CheckM Operand := do
  let w ← table
  let (x, y) ← match x.type.isUntyped, y.type.isUntyped with
    | false, false => pure (x, y)
    | true, false => pure (← convertUntyped x y.type, y)
    | false, true => pure (x, ← convertUntyped y x.type)
    | true, true =>
      if x.mode = .constant && y.mode = .constant then pure (asFraction w x, asFraction w y)
      else pure (← convertUntyped x (.basic .float64), ← convertUntyped y (.basic .float64))
  if !x.ok || !y.ok then return .bad e
  if !x.type.identical y.type then
    report x.pos (invalidOp ++ e.render ++ " (mismatched types " ++ (← showType x.type) ++ " and "
      ++ (← showType y.type) ++ ")")
    return .bad e
  let result : Option Basic := match w.basic? x.type with
    | some .float32 => some .complex64
    | some .float64 => some .complex128
    | some .untypedFloat => some .untypedComplex
    | _ => none
  match result with
  | none =>
    report x.pos (invalidArg ++ "arguments have type " ++ (← showType x.type)
      ++ ", expected floating-point")
    return .bad e
  | some b =>
    match x.mode, y.mode, x.value.real?, y.value.real? with
    | .constant, .constant, some p, some q =>
      return {
        mode := .constant, type := .basic b, value := .complex ⟨p, false⟩ ⟨q, false⟩, expr := e }
    | _, _, _, _ => return { mode := .value, type := .basic b, expr := e }

/-- A use of `real` or `imag`. -/
def partCall (e : Expr) (name : Bytes) (x : Operand) : CheckM Operand := do
  let w ← table
  let x ← if !x.type.isUntyped then pure x
    else if x.mode = .constant then
      pure (if w.isNumeric x.type then { x with type := .basic .untypedComplex } else x)
    else convertUntyped x (.basic .complex128)
  if !x.ok then return .bad e
  let result : Option Basic := match w.basic? x.type with
    | some .complex64 => some .float32
    | some .complex128 => some .float64
    | some .untypedComplex => some .untypedFloat
    | _ => none
  match result with
  | none =>
    report x.pos (invalidArg ++ "argument has type " ++ (← showType x.type)
      ++ ", expected complex type")
    return .bad e
  | some b =>
    match x.mode, x.value.parts? with
    | .constant, some (re, im) =>
      let p := if name = "real" then re else im
      return { mode := .constant, type := .basic b, value := .number p.value p.whole, expr := e }
    | _, _ => return { mode := .value, type := .basic b, expr := e }

/-- A use of `new`, of a type or a value. -/
def newCall (e fn : Expr) (arg : Expr) : CheckM Operand := do
  let (x, _) ← rawExpr r none arg
  let x ← exclude x true true false
  let x ← singleValue x
  if !x.ok then return .bad e
  let t ← if x.mode = .typeExpr then do
      later (.varType (← problemLoc arg.pos) x.type)
      pure x.type
    else do
      let y ← assign r x none "argument to new"
      if !y.ok then return .bad e
      if !(← allows 26) then report fn.pos ("new(" ++ arg.render ++ ") " ++ requires 26)
      pure y.type
  return { mode := .value, type := .pointer t, expr := e }

/-- The type of the keys of a map that one is deleted from. -/
def mapKey (x : Operand) : CheckM (Option Ty) := do
  let mut key : Option Ty := none
  for part in (← table).specific x.type do
    match part, key with
    | some (_, .map k _), none => key := some k
    | some (_, .map k _), some k' =>
      if !k'.identical k then
        report x.pos (invalidArg ++ "maps of " ++ (← showOperand x)
          ++ " must have identical key types")
        return none
    | _, _ =>
      report x.pos (invalidArg ++ (← showOperand x) ++ " is not a map")
      return none
  return key

/-- **A call of a predeclared function.** -/
def builtinCall (e fn : Expr) (name : Bytes) (args : List Expr) (spread : Bool)
    (rparen : Place) : CheckM Operand := do
  let (least, more, _) := builtinShape name
  if spread && name ≠ "append" then
    report rparen (invalidOp ++ "invalid use of ... with built-in " ++ name)
    let _ ← use r args
    return .bad e
  let measured := name = "len" || name = "cap"
  let before := (← get).hasCall
  if measured then modify fun s => { s with hasCall := false }
  let special := name = "make" || name = "new"
  let xs ← if special then pure [] else arguments r args
  let isPure := !(← get).hasCall
  if measured then modify fun s => { s with hasCall := before }
  if xs.any fun x => !x.ok then return .bad e
  let n := if special then args.length else xs.length
  if n < least || (!more && least < n) then
    let what : Bytes := if n < least then "not enough" else "too many"
    report rparen (invalidOp ++ what ++ " arguments for " ++ e.render ++ " (expected "
      ++ Bytes.ofNat least ++ ", found " ++ Bytes.ofNat n ++ ")")
    return .bad e
  let nothing : Operand := { mode := .noValue, expr := e }
  let int : Operand := { mode := .value, type := .basic .int, expr := e }
  if name = "make" then
    match args with
    | t :: rest => makeCall r e t rest
    | [] => return .bad e
  else if name = "new" then
    match args with
    | a :: _ => newCall r e fn a
    | [] => return .bad e
  else if name = "max" || name = "min" then extremum r e name xs
  else if name = "print" || name = "println" then
    for x in xs do
      let y ← assign r x none ("argument to built-in " ++ name)
      if !y.ok then return .bad e
    return nothing
  else if name = "recover" then
    return { mode := .value, type := .iface [] [], expr := e }
  else
    match xs with
    | [] => return .bad e
    | x :: rest =>
      let y := (rest.head?).getD x
      if name = "append" then
        let special ← if spread && n = 2 then takesText r x y else pure false
        if !special then
          match ← sliceElem x with
          | .error why =>
            report x.pos ("invalid append: " ++ why)
            return .bad e
          | .ok elem =>
            let sig := Sig.mk [] [.mk [] x.type, .mk [] (.slice elem)] [.mk [] x.type] true
            let given := xs.map fun x => ({ operand := x } : Argument)
            let _ ← passArguments r e fn args spread rparen sig [] [] given
        return { mode := .value, type := x.type, expr := e }
      else if measured then lengthOf e name x isPure
      else if name = "panic" then
        let z ← assign r x (some (.iface [] [])) "argument to panic"
        return if z.ok then nothing else .bad e
      else if name = "copy" then
        if ← takesText r x y then return int
        copyCall e x y
      else if name = "delete" then
        match ← mapKey x with
        | some key =>
          let z ← assign r y (some key) "argument to delete"
          return if z.ok then nothing else .bad e
        | none => return .bad e
      else if name = "clear" then
        let clearable (u : Ty) : Bool := match u with
          | .map .. | .slice _ => true
          | _ => false
        if (← table).underIs clearable x.type then return nothing
        report x.pos (invalidArg ++ "clear " ++ (← showOperand x)
          ++ ": argument must be (or constrained by) map or slice")
        return .bad e
      else if name = "close" then
        for part in (← table).specific x.type do
          match part with
          | some (_, .chan .receive _) =>
            report x.pos (invalidOp ++ "cannot close receive-only channel " ++ (← showOperand x))
            return .bad e
          | some (_, .chan ..) => pure ()
          | _ =>
            report x.pos (invalidOp ++ "cannot close non-channel " ++ (← showOperand x))
            return .bad e
        return nothing
      else if name = "complex" then complexCall e x y
      else partCall e name x

/-! ## Calls -/

/-- A conversion. -/
def conversionCall (e : Expr) (t : Ty) (args : List Expr) (spread : Bool) (rparen : Place) :
    CheckM Operand := do
  match args with
  | [] =>
    report rparen ("missing argument in conversion to " ++ (← showType t))
    return .bad e
  | [a] =>
    let x ← expr r none a
    if !x.ok then return .bad e
    let w ← table
    if w.isPlainInterface t && !(w.typeSet t).isMethodSet then
      report e.pos ("cannot use interface " ++ (← showType t)
        ++ " in conversion (contains specific type constraints or is comparable)")
      return .bad e
    if spread then
      report a.pos ("invalid use of ... in conversion to " ++ (← showType t))
      return .bad e
    let y ← convert r x t
    return { y with expr := e }
  | args =>
    let _ ← use r args
    report ((args.getLast?.map Expr.pos).getD e.pos)
      ("too many arguments in conversion to " ++ (← showType t))
    return .bad e

/-- What a function that is called returns. -/
def callResult (e : Expr) (sig : Sig) : Operand :=
  let x : Operand := match sig.results with
    | [] => { mode := .noValue, expr := e }
    | [p] => { mode := .value, type := p.type, expr := e }
    | ps => { mode := .value, type := .tuple (ps.map ParamTy.type), expr := e }
  -- where types could not be inferred there is no result that depends on them
  if x.mode = .value && x.type.isParameterized (sig.typeParams.map TypeParam.id) then .bad e else x

/-- A call of a function value, with type arguments if the function is generic. -/
def functionCall (e fn : Expr) (f : Operand) (typesWritten : Option (List Expr))
    (args : List Expr) (spread : Bool) (rparen : Place) : CheckM Operand := do
  let s ← get
  let refuse : Option (Ty × Ty) → Option Bytes
    | some (_, .func _) | none => none
    | some (t, _) => some (s.types.render (qualifier s) t ++ " is not a function")
  match s.types.commonUnder refuse f.type with
  | .error d =>
    if !(s.types.under f.type).isInvalid then
      report f.pos (invalidOp ++ "cannot call " ++ (← showOperand f) ++ ": " ++ (← showDiscord d))
    let _ ← use r args
    return .bad e
  | .ok u =>
    let sig := match u with
      | .func sig => sig
      | _ => default
    let (sig, types, written) ← match typesWritten with
      | none => pure (sig, [], [])
      | some es =>
        match ← typeList r es with
        | none =>
          let _ ← use r args
          return .bad e
        | some types =>
          let want := sig.typeParams.length
          if want < types.length then
            report (((es[want]?).map Expr.pos).getD f.pos) ("got " ++ Bytes.ofNat types.length
              ++ " type arguments but " ++ fn.render ++ " has " ++ Bytes.ofNat want
              ++ " type parameters")
            let _ ← use r args
            return .bad e
          if types.length = want then
            pure (← instantiateSig fn.pos sig types (es.map Expr.pos), [], [])
          else pure (sig, types, es)
    let xs ← genericArguments r args
    let sig ← passArguments r e fn args spread rparen sig types written xs
    modify fun s => { s with hasCall := true }
    return callResult e sig

/-- **A call** of any kind, and what can be done with it as a statement. -/
def callExpr (e fn : Expr) (args : List Expr) (spread : Bool) (rparen : Place) :
    CheckM (Operand × ExprKind) := do
  let (f, types) ← match fn with
    | .index arg indices => do
      let (x, generic) ← index r fn arg indices
      pure ({ x with expr := fn }, if generic then some indices else none)
    | fn => do pure (← exprOrGeneric r fn, none)
  match f.mode with
  | .invalid =>
    let _ ← use r args
    return (.bad e, .statement)
  | .typeExpr =>
    let f ← nonGeneric f
    let x ← if !f.ok then pure (.bad e)
      else if f.type.isInvalid then do
        let _ ← use r args
        pure (.bad e)
      else if !(← complete f.type) then pure (.bad e)
      else conversionCall r e f.type args spread rparen
    return (x, .conversion)
  | .builtin =>
    let name := match fn.unparen with
      | .ident n => n.text
      | _ => []
    let x ← builtinCall r e fn name args spread rparen
    if x.ok && x.mode ≠ .constant then modify fun s => { s with hasCall := true }
    return (x, (builtinShape name).2.2)
  | _ => return (← functionCall r e fn f types args spread rparen, .statement)

end

end Stencil.Host.Check
