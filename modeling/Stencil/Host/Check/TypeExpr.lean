import Stencil.Host.Check.Call

/-!
# Types as written

What a type expression stands for. Conditions on a type that need the types it mentions
to be complete, such as that the keys of a map can be compared or that type arguments
satisfy their constraints, are put off.

The type parameters of a function are in the scope of its parameters and its body, and a
constraint may mention all of them.
-/

namespace Stencil.Host.Check

open Bytes

section

variable (r : Unit → Rules)

/-- The type an operand is, if it is one. -/
def typeOf (x : Operand) : CheckM Ty := do
  match x.mode with
  | .typeExpr => return x.type
  | .invalid => return .invalid
  | .noValue =>
    report x.pos ((← showOperand x) ++ " used as type")
    return .invalid
  | _ =>
    report x.pos ((← showOperand x) ++ " is not a type")
    return .invalid

/-- The type a name stands for. A variable in the place of a type counts as used. -/
def typeName (n : Name) : CheckM Ty := do
  match ← lookupName n.text with
  | none => typeOf (← ident r n)
  | some e =>
    match ← notAType? e with
    | none => typeOf (← ident r n)
    | some kind =>
      report n.pos (n.text ++ " (" ++ kind ++ ") is not a type")
      match e with
      | .var i => modifyVar i fun v => { v with used := true }
      | _ => pure ()
      return .invalid

/-- The type a selector stands for: one of another package. -/
def qualifiedType (e x : Expr) (sel : Name) : CheckM Ty := do
  let imported ← match x with
    | .ident n =>
      match ← lookupName n.text with
      | some (.imported _) => pure true
      | _ => pure false
    | _ => pure false
  if imported then return ← typeOf (← selector r e x sel)
  let y ← exprOrType r x
  if y.mode = .builtin then
    report y.pos ("invalid use of " ++ (← showOperand y) ++ " in selector expression")
  else if y.ok then report sel.pos (e.render ++ " is not a type")
  return .invalid

/-- The length of an array type, if it is right. -/
def arrayLength (e : Expr) : CheckM (Option Nat) := do
  let known ← match e with
    | .ident n =>
      match ← lookupName n.text with
      | none =>
        report n.pos ("undefined array length " ++ n.text ++ " or missing type constraint")
        return none
      | some (.const ..) | some .iota => pure true
      | some (.object i) =>
        match (← getObj i).decl with
        | .const .. => pure true
        | _ => pure false
      | _ => pure false
    | _ => pure true
  if !known then
    report e.pos ("invalid array length " ++ e.render)
    return none
  let x ← expr r none e
  if !x.ok then return none
  if x.mode ≠ .constant then
    report x.pos ("array length " ++ (← showOperand x) ++ " must be constant")
    return none
  let whole := (← table).isInteger x.type
  match x.value.int? with
  | some n =>
    if (x.type.isUntyped || whole) && 0 ≤ n && n < Nat.pow 2 63 then return some n.toNat
  | none => pure ()
  if whole then report x.pos ("invalid array length " ++ (← showOperand x))
  else report x.pos ("array length " ++ (← showOperand x) ++ " must be integer")
  return none

/-- The name an embedded type gives to its field. -/
def embeddedName : Expr → Option Name
  | .ident n => some n
  | .star _ (.star ..) => none
  | .star _ x => embeddedName x
  | .selector _ s => some s
  | .index x _ => embeddedName x
  | _ => none

/-- The text of a tag. -/
def tagText (tag : Option Bytes) : Bytes :=
  match tag with
  | some t => (Quoted.unquote? t).getD []
  | none => []

/-- The fields of a structure type. -/
def structFields (fields : List Field) : CheckM (List FieldTy) := do
  let pkg := (← get).path
  let mut out : List FieldTy := []
  for f in fields do
    let t ← varType r f.type
    let named := f.names.map fun n => (n, false)
    let names ← if !f.names.isEmpty then pure named
      else
        match embeddedName f.type with
        | some n =>
          later (.embedded (← locate f.type.pos) t)
          pure [(n, true)]
        | none =>
          report f.type.pos ("invalid embedded field type " ++ f.type.render)
          pure []
    for (n, embedded) in names do
      let loc ← locate n.pos
      match out.find? fun (g : FieldTy) => n.text ≠ "_" && g.name = n.text with
      | some g =>
        reportAll loc (n.text ++ " redeclared") [(g.loc, "other declaration of " ++ n.text)]
      | none => out := out ++ [.mk n.text pkg t embedded (tagText f.tag) loc]
  return out

/-- The parameters or results of a function: their names where there are any, their types,
and whether further arguments can follow. -/
def collectParams (fields : List Field) (mayVary : Bool) :
    CheckM (List (Option Name × Ty) × Bool) := do
  let mut out : List (Option Name × Ty) := []
  let mut variadic := false
  let mut left := fields.length
  for f in fields do
    left := left - 1
    let (type, dots) ← match f.type with
      | .ellipsis p (some elem) =>
        if mayVary && left = 0 && f.names.length ≤ 1 then pure (elem, true)
        else
          report p "can only use ... with final parameter in list"
          pure (elem, false)
      | t => pure (t, false)
    let t ← varType r type
    let t := if dots then Ty.slice t else t
    variadic := variadic || dots
    if f.names.isEmpty then out := out ++ [(none, t)]
    else out := out ++ f.names.map fun n => (some n, t)
  return (out, variadic)

/-! ## Type parameters and constraints -/

/-- The alternatives of an element of a constraint, in order. -/
def alternativesOf : Expr → List Expr
  | .binary x p op y => if op = "|" then alternativesOf x ++ [y] else [.binary x p op y]
  | e => [e]

/-- One alternative of a constraint. -/
def alternative (e : Expr) : CheckM Term := do
  let (tilde, e) := match e with
    | .unary p op x => if op = "~" then (true, x) else (false, .unary p op x)
    | e => (false, e)
  let t ← (r ()).type e
  if !t.isParam then return .mk tilde t
  report e.pos (if tilde then "type in term ~" ++ e.render ++ " cannot be a type parameter"
    else "term cannot represent type parameter")
  return .mk tilde .invalid

/-- **An element of a constraint**: a type, or several alternatives. -/
def element (e : Expr) : CheckM Ty := do
  let es := alternativesOf e
  let mut terms : List (Term × Loc) := []
  for e in es do
    let t ← alternative r e
    if es.length = 1 && !t.tilde then return t.type
    terms := terms ++ [(t, ← problemLoc e.pos)]
  if 100 < terms.length then
    report e.pos "cannot handle more than 100 union terms (implementation limitation)"
    return .invalid
  later (.union terms)
  return .union (terms.map Prod.fst)

/-- The constraint of a type parameter. -/
def constraint (e : Expr) : CheckM Ty := do
  let alternatives : Bool := match e with
    | .unary _ op _ => op = "~"
    | .binary _ _ op _ => op = "|"
    | _ => false
  let t ← if alternatives then element r e else (r ()).type e
  if !t.isParam then return t
  report e.pos "cannot use a type parameter as constraint"
  return .invalid

/-- A new type parameter in the innermost scope. Its constraint is not known yet. -/
def declareParam (n : Name) : CheckM (Name × TypeId) := do
  let id ← newTypeId n.text
  let loc ← locate n.pos
  modify fun s => { s with types := (id, { underlying := some .invalid, loc }) :: s.types }
  declare n.text n.pos (.type (.param id))
  return (n, id)

/-- Says what the constraint of a type parameter is. -/
def constrain (id : TypeId) (bound : Ty) : CheckM Unit :=
  modify fun s => { s with types := s.types.update id fun i => { i with underlying := some bound } }

/-- **The type parameters of a declaration**, declared in the innermost scope. `bind` is told
them before their constraints are looked at, which may mention the declared type itself. -/
def typeParams (fields : List Field) (bind : List TypeId → CheckM Unit) :
    CheckM (List (Name × TypeId)) := do
  let params ← (fields.flatMap Field.names).mapM declareParam
  bind (params.map Prod.snd)
  let mut rest := params
  for f in fields do
    let bound ← constraint r f.type
    for (_, id) in rest.take f.names.length do constrain id bound
    rest := rest.drop f.names.length
  return params

/-! ## Functions and interfaces -/

/-- The head of a function: its signature, and the names it declares for its body. -/
structure Head where
  /-- The signature. -/
  sig : Sig
  /-- The type parameters, those of the receiver included. -/
  types : List (Name × Ty) := []
  /-- Receiver, parameters and results that have names. -/
  bound : List Bound := []

/-- **The head of a function.** Names that occur twice are reported. The receiver is looked
at first, in the same scope, and may declare type parameters. -/
def head (receiver : CheckM (List (Option Name × Ty) × List (Name × TypeId)))
    (params : List Field) (ft : FuncType) : CheckM Head := inScope do
  let (receiver, own) ← receiver
  let types ← typeParams r params fun _ => pure ()
  let (params, variadic) ← collectParams r ft.params true
  let (results, _) ← collectParams r ft.results false
  for (n, _) in receiver ++ params ++ results do
    match n with
    | some n => declare n.text n.pos .nil
    | none => pure ()
  let plain (ps : List (Option Name × Ty)) : List ParamTy :=
    ps.map fun (n, t) => .mk ((n.map Name.text).getD []) t
  let bound (kind : VarKind) (ps : List (Option Name × Ty)) : List Bound :=
    ps.filterMap fun (n, t) => n.map fun n => ⟨n, t, kind⟩
  let w ← table
  return {
    sig := .mk (types.map fun (_, id) => .mk id (w.boundOf id)) (plain params) (plain results)
      variadic
    types := (own ++ types).map fun (n, id) => (n, .param id)
    bound := bound .receiver receiver ++ bound .parameter params ++ bound .result results }

/-- A function type with the names of its parameters and results. -/
def signature (ft : FuncType) : CheckM Head := head r (return ([], [])) [] ft

/-- The methods and embedded types of an interface type. That their names differ is checked
later, when the embedded types are complete. -/
def interfaceType (members : List Field) : CheckM Ty := do
  let pkg := (← get).path
  let mut methods : List (MethodTy × Loc) := []
  let mut embedded : List (Ty × Loc) := []
  for m in members do
    match m.names, m.type with
    | n :: _, .funcType _ ft =>
      if n.text = "_" then report n.pos "methods must have a unique non-blank name"
      else
        let h ← signature r ft
        methods := methods ++ [(.mk n.text pkg h.sig, ← locate n.pos)]
    | _, t =>
      let e ← element r t
      if !e.isInvalid then embedded := embedded ++ [(e, ← locate t.pos)]
  let sorted := methods.mergeSort fun a b => Bytes.le a.1.name b.1.name
  if !sorted.isEmpty || !embedded.isEmpty then later (.interface sorted embedded)
  let once := sorted.foldl (fun (out : List MethodTy) m =>
    if out.any fun o => o.name = m.1.name then out else out ++ [m.1]) []
  return .iface once (embedded.map Prod.fst)

/-! ## Types -/

/-- An instance of a generic type. That the type arguments are right is checked later. -/
def instanceOf (e : Expr) (generic : Ty) (args : List Expr) : CheckM Ty := do
  if generic.isInvalid then return .invalid
  if !(← table).isGeneric generic then
    report e.pos
      (invalidOp ++ e.render ++ " (" ++ (← showType generic) ++ " is not a generic type)")
    return .invalid
  match ← typeList r args with
  | none => return .invalid
  | some types =>
    let loc ← problemLoc e.pos
    let places ← args.mapM fun a => problemLoc a.pos
    match generic with
    | .renamed id _ target =>
      let params := (((← table).info? id).map TypeInfo.typeParams).getD []
      if !(← rightCount loc id.name params.length types.length) then return .invalid
      later (.instance_ loc id (types.zip places))
      return .renamed id types (target.subst (params.zip types))
    | .named id _ =>
      later (.instance_ loc id (types.zip places))
      return .named id types
    | _ => return .invalid

/-- The type an expression stands for, which may be a generic one. -/
def genericType (e : Expr) : CheckM Ty := do
  match e with
  | .bad _ => return .invalid
  | .ident n => typeName r n
  | .selector x s => qualifiedType r e x s
  | .paren _ x => (r ()).type x
  | .index x args =>
    let t ← match x with
      | .ident n => typeName r n
      | .selector y s => qualifiedType r x y s
      | x => (r ()).type x
    instanceOf r e t args
  | .arrayType _ none elem => return .slice (← varType r elem)
  | .arrayType _ (some (.ellipsis p none)) elem =>
    report p "invalid use of [...] array (outside a composite literal)"
    let _ ← varType r elem
    return .invalid
  | .arrayType _ (some len) elem =>
    let n ← arrayLength r len
    let t ← varType r elem
    match n with
    | some n => return .array (some n) t
    | none => return .invalid
  | .ellipsis p _ =>
    report p "invalid use of ..."
    return .invalid
  | .structType _ fields => return .struct (← structFields r fields)
  | .star _ x =>
    let t ← varType r x
    return if t.isInvalid then .invalid else .pointer t
  | .funcType _ ft =>
    return .func (← signature r ft).sig
  | .interfaceType _ members => interfaceType r members
  | .mapType _ k v =>
    let key ← varType r k
    let elem ← varType r v
    later (.mapKey (← locate k.pos) key)
    return .map key elem
  | .chanType _ dir elem => return .chan dir (← varType r elem)
  | e =>
    report e.pos (e.render ++ " is not a type")
    let _ ← use r [e]
    return .invalid

/-- **The type an expression stands for.** -/
def typeExpr (e : Expr) : CheckM Ty := do
  let t ← genericType r e
  if !(← table).isGeneric t then return t
  report e.pos ("cannot use generic type " ++ (← showType t) ++ " without instantiation")
  return .invalid

/-! ## Expressions of any kind -/

/-- A function literal. Its body is checked once the statement around it is done. -/
def funcLit (e : Expr) (ft : FuncType) (body : Block) : CheckM Operand := do
  let h ← signature r ft
  let s ← get
  if !s.skipBodies then later (.body s.env h.sig [] h.bound body)
  return { mode := .value, type := .func h.sig, expr := e }

/-- A dereference, or a pointer type. -/
def starExpr (e : Expr) (arg : Expr) : CheckM Operand := do
  let x ← exprOrType r arg
  match x.mode with
  | .invalid => return .bad e
  | .typeExpr =>
    if x.type.isInvalid then return .bad e
    later (.varType (← problemLoc arg.pos) x.type)
    return { mode := .typeExpr, type := .pointer x.type, expr := e }
  | _ =>
    if x.isNil then
      report x.pos (invalidOp ++ "cannot indirect nil")
      return .bad e
    let bases := ((← table).specific x.type).map fun u =>
      match u with
      | some (_, .pointer t) => some t
      | _ => none
    match bases.mapM id with
    | some (t :: ts) =>
      if ts.all t.identical then return { mode := .variable, type := t, expr := e }
      report x.pos (invalidOp ++ "pointers of " ++ (← showOperand x)
        ++ " must have identical base types")
      return .bad e
    | _ =>
      report x.pos (invalidOp ++ "cannot indirect " ++ (← showOperand x))
      return .bad e

/-- **What an expression stands for**, and what can be done with it as a statement. -/
def exprAny (hint : Option Ty) (e : Expr) : CheckM (Operand × ExprKind) := do
  let plain (p : CheckM Operand) : CheckM (Operand × ExprKind) := do
    return (← p, .expression)
  match e with
  | .bad _ => return (.bad e, .statement)
  | .ident n => plain (ident r n)
  | .lit _ kind text => plain (basicLit e kind text)
  | .funcLit _ ft body => plain (funcLit r e ft body)
  | .composite type _ es rb => plain (composite r e type es rb hint)
  | .paren _ x =>
    let (y, k) ← rawExpr r none x
    return ({ y with expr := e }, k)
  | .selector x s => plain (selector r e x s)
  | .index x is => plain (indexExpr r none e x is)
  | .slice x lo hi mx full => plain (slice r e x lo hi mx full)
  | .assertion x t => plain (assertion r e x t)
  | .call fn args spread rp => callExpr r e fn args spread rp
  | .star _ x => plain (starExpr r e x)
  | .unary p op x =>
    let y ← unary r e p op x
    return (y, if op = "<-" then .statement else .expression)
  | .binary x p op y => plain (binary r (some e) x y p op)
  | .keyValue k _ =>
    report k.pos "no key:value expected"
    return (.bad e, .expression)
  | .ellipsis p _ =>
    report p "invalid use of ..."
    return (.bad e, .expression)
  | .arrayType .. | .structType .. | .funcType .. | .interfaceType .. | .mapType ..
  | .chanType .. =>
    let t ← (r ()).type e
    return ({ mode := .typeExpr, type := t, expr := e }, .expression)

end

end Stencil.Host.Check
