import Stencil.Host.Check.Assign
import Stencil.Host.Flow
import Stencil.Host.Jump

/-!
# Declarations

Constants, variables, types and functions. An object of the package is checked when it is
first needed, so the order of declarations does not matter; an object that is needed while
it is being checked closes a cycle, which is allowed as long as it goes through a declared
type or through values only. Cycles among values are found later, by the order in which
they would be initialised.
-/

namespace Stencil.Host.Check

open Bytes

section

variable (r : Unit → Rules)

/-! ## Constants and variables -/

/-- **A constant**: its type and value. `settle` is told the type as soon as it is known. -/
def constDecl (type init : Option Expr) (iota : Nat) (name : Place) (inherited : Bool)
    (settle : Ty → CheckM Unit) : CheckM (Ty × Const) := do
  let env := (← get).env
  let here := if inherited then some name else none
  inEnv { env with iota := some iota, reportAt := none } do
    let declared ← match type with
      | none => pure none
      | some te =>
        let t ← (r ()).type te
        let u ← under t
        let basic := match u with
          | .basic b => b ≠ .invalid
          | _ => false
        if !basic then
          if !u.isInvalid then report te.pos ("invalid constant type " ++ (← showType t))
          settle .invalid
          return (.invalid, .unknown)
        settle t
        pure (some t)
    let failed : Ty × Const := (declared.getD .invalid, .unknown)
    match init with
    | none => return failed
    | some e =>
      modify fun s => { s with env := { s.env with reportAt := here } }
      let x ← expr r none e
      if !x.ok || x.type.isInvalid then return failed
      if x.mode ≠ .constant then
        report x.pos ((← showOperand x) ++ " is not constant")
        return failed
      let t := declared.getD x.type
      let y ← assign r x (some t) "constant declaration"
      return (t, if y.ok then y.value else .unknown)

/-- **A variable**, alone or in a group that shares one value. -/
def varDecl (self : Slot) (group : List Slot) (type init : Option Expr) : CheckM Unit := do
  match type with
  | some te => self.setType (← varType r te)
  | none => pure ()
  match init with
  | none => if type.isNone then self.setType .invalid
  | some e =>
    if group.length ≤ 1 then
      let x ← exprFor r (← self.type) (← self.label) e
      initVar r self x "variable declaration"
    else
      match type, ← self.type with
      | some _, some t => for s in group do s.setType t
      | _, _ => pure ()
      initVars r group [e] none

/-! ## Types -/

/-- Says what a declared type stands for. -/
def defineType (id : TypeId) (t : Option Ty) : CheckM Unit :=
  modify fun s =>
    if (s.types.info? id).isSome then
      { s with types := s.types.update id fun i => { i with underlying := t } }
    else { s with types := (id, { underlying := t }) :: s.types }

/-- Adds the methods of a type. A second method of one name is reported. -/
def collectMethods (i : Nat) (id : TypeId) : CheckM Unit := do
  let s ← get
  let numbers := ((s.methods.find? fun m => m.1 = i).map Prod.snd).getD []
  if numbers.isEmpty then return
  later (.members i)
  let mut methods : List Method := []
  for k in numbers do
    let o ← getObj k
    match methods.find? fun m => m.name = o.name with
    | some m =>
      reportAt o.loc ("method " ++ id.name ++ "." ++ o.name ++ " already declared at "
        ++ (← showLoc m.loc))
    | none =>
      let pointer := match o.decl with
        | .func f =>
          match f.receiver with
          | some (p :: _) =>
            match p.type.unparen with
            | .star .. => true
            | _ => false
          | _ => false
        | _ => false
      let receiver := match o.decl with
        | .func f =>
          (((f.receiver.getD []).head?.bind fun p => p.names.head?).map Name.text).getD []
        | _ => []
      let m : Method := { name := o.name, pkg := s.path, pointer := pointer, sig := default,
                          decl := some k, loc := o.loc, receiver := receiver }
      methods := methods ++ [m]
  let found := methods
  modify fun s => { s with types := s.types.update id fun t => { t with methods := found } }

/-- Says which type parameters a declared type has. -/
def setTypeParams (id : TypeId) (params : List TypeId) : CheckM Unit :=
  modify fun s => { s with types := s.types.update id fun i => { i with typeParams := params } }

/-- What a type is declared as, in the scope of its type parameters. A type parameter on its
own is refused. -/
def declaredType (id : TypeId) (params : List Field) (e : Expr) : CheckM Ty := do
  let t ← if params.isEmpty then (r ()).type e else inScope do
    let _ ← typeParams r params (setTypeParams id)
    (r ()).type e
  if !t.isParam then return t
  report e.pos "cannot use a type parameter as RHS in type declaration"
  return .invalid

/-- What another name of a type stands for, in the scope of its type parameters. -/
def aliasedType (id : TypeId) (params : List Field) (e : Expr) : CheckM Ty := do
  match params with
  | [] => (r ()).type e
  | f :: _ =>
    if !(← allows 23) then
      report ((f.names.head?.map Name.pos).getD f.type.pos) ("generic type alias " ++ requires 23)
    defineType id none
    inScope do
      let own ← typeParams r params (setTypeParams id)
      let t ← (r ()).type e
      match t with
      | .param p =>
        if own.any fun o => o.2 = p then
          report e.pos "cannot use type parameter declared in alias declaration as RHS"
          return .invalid
        return t
      | t => return t

/-- **A type of the package.** -/
def typeDecl (i : Nat) (params : List Field) (isAlias : Bool) (e : Expr) : CheckM Unit := do
  let s ← get
  let o ← getObj i
  let own := (s.scope.find? fun n => n.1 = o.name).map Prod.snd = some i
  let id : TypeId := ⟨s.path, o.name, if own then 0 else i + 1⟩
  if isAlias then
    let t ← aliasedType r id params e
    let t' := (← getObj i).type
    -- a cycle through the alias itself has been reported
    if (t'.getD (.basic .int)).isInvalid then return
    modifyObj i fun o =>
      { o with type := some (if t.isInvalid then .invalid else .renamed id [] t) }
  else
    later (.containment i)
    defineType id none
    modifyObj i fun o => { o with type := some (.named id []) }
    let t ← declaredType r id params e
    defineType id (some t)
    collectMethods i id

/-- The declared types that a type holds as parts of itself. -/
def directParts (fuel : Nat) (t : Ty) : List (TypeId × List Ty) :=
  match fuel with
  | 0 => []
  | n + 1 =>
    match t.unrename with
    | .named id args => [(id, args)]
    | .struct fs => fs.flatMap fun f => directParts n f.type
    | .array _ e => directParts n e
    | .iface _ es => es.flatMap fun e => directParts n e
    | .union ts => ts.flatMap fun a => directParts n a.type
    | _ => []

/-- A path of declared types from a type back to itself, through parts. -/
def containmentPath (w : TypeTable) (goal : TypeId) :
    Nat → List TypeId → TypeId × List Ty → Option (List TypeId)
  | 0, _, _ => none
  | n + 1, seen, (id, args) =>
    let parts := match w.info? id with
      | some i => directParts 64 (TypeTable.expand i args)
      | none => []
    if parts.any fun p => p.1 = goal then some [id]
    else
      parts.findSome? fun p =>
        if seen.contains p.1 then none
        else (containmentPath w goal n (p.1 :: seen) p).map (id :: ·)

/-- Checks that a type does not hold itself. -/
def checkContainment (i : Nat) : CheckM Unit := do
  match (← getObj i).type with
  | some (.named id _) =>
    let s ← get
    match containmentPath s.types id 64 [id] (id, []) with
    | none => return ()
    | some path =>
      let objs := path.filterMap fun p =>
        (List.range s.objs.size).findSome? fun k =>
          match s.objs[k]? with
          | some o => match o.type with
            | some (.named q _) => if q = p then some (k, o) else none
            | _ => none
          | none => none
      cycleError objs
      defineType id (some .invalid)
  | _ => return ()

/-- Checks that a type declared in a function does not hold itself. -/
def checkLocalContainment (id : TypeId) (loc : Loc) : CheckM Unit := do
  match containmentPath (← table) id 64 [id] (id, []) with
  | none => return ()
  | some _ =>
    reportAt loc ("invalid recursive type: " ++ id.name ++ " refers to itself")
    defineType id (some .invalid)

/-- Reports a second method of one name. -/
def duplicateMethod (loc other : Loc) (name : Bytes) : CheckM Unit :=
  reportAll loc ("duplicate method " ++ name) [(other, "other declaration of method " ++ name)]

/-- Checks that the methods of an interface have different names. A method that comes from
an embedded type may be there already if it is the same, which is seen later. -/
def checkInterface (methods : List (MethodTy × Loc)) (embedded : List (Ty × Loc)) :
    CheckM Unit := do
  let w ← table
  let mut seen : List (MethodTy × Loc) := []
  for (m, loc) in methods do
    match seen.find? fun s => sameName s.1.name s.1.pkg m.name m.pkg with
    | some (_, other) => duplicateMethod loc other m.name
    | none => seen := seen ++ [(m, loc)]
  for (e, loc) in embedded do
    for m in w.methodsOf e do
      match seen.find? fun s => sameName s.1.name s.1.pkg m.name m.pkg with
      | some (o, other) => later (.overlap loc other m o)
      | none => seen := seen ++ [(m, loc)]

/-- Checks that fields and methods of a type have different names. -/
def checkMembers (i : Nat) : CheckM Unit := do
  match (← getObj i).type with
  | some (.named id _) =>
    let w ← table
    match w.under (.named id []) with
    | .struct fs =>
      for f in fs do
        if f.name ≠ "_" then
          match (((w.info? id).map TypeInfo.methods).getD []).find? fun m => m.name = f.name with
          | some m =>
            reportAll m.loc ("field and method with the same name " ++ f.name)
              [(f.loc, "other declaration of " ++ f.name)]
          | none => pure ()
    | _ => return ()
  | _ => return ()

/-! ## Functions -/

/-- The parts of the type of a receiver: whether it is a pointer, the base, and the names it
gives to type parameters if there are any. -/
def receiverParts (e : Expr) : Bool × Expr × Option (List Expr) :=
  let (pointer, base) := match e.unparen with
    | .star _ x => (true, x.unparen)
    | x => (false, x)
  match base with
  | .index x args => (pointer, x, some args)
  | base => (pointer, base, none)

/-- The names that a receiver gives to type parameters. -/
def receiverNames (args : List Expr) : CheckM (List Name) :=
  args.mapM fun a => do
    match a with
    | .ident n => return n
    | .bad p => return ⟨p, "_"⟩
    | a =>
      report a.pos ("receiver type parameter " ++ a.render ++ " must be an identifier")
      return ⟨a.pos, "_"⟩

/-- The type of a receiver that names the type parameters of its base, and these. They have
the constraints of the base. -/
def genericReceiver (pointer : Bool) (base : Expr) (args : List Expr) :
    CheckM (Ty × List (Name × TypeId)) := do
  let names ← receiverNames args
  let t ← genericType r base
  let generic ← if t.isInvalid then pure none
    else if !(← table).isGeneric t then do
      report base.pos ((← showType t) ++ " is not a generic type")
      pure none
    else
      match t with
      | .named id _ => pure (some id)
      | t => do
        report base.pos ("cannot define new methods on generic alias type " ++ (← showType t))
        pure none
  let own ← names.mapM declareParam
  match generic with
  | none => return (.invalid, own)
  | some id =>
    let params := (← table).typeParamsOf id
    if params.length = own.length then
      let m : Substitution := (params.zip own).map fun (p, o) => (p.id, .param o.2)
      for (p, o) in params.zip own do constrain o.2 (p.bound.subst m)
    else
      report base.pos ("receiver declares " ++ measure own.length "type parameter"
        ++ ", but receiver base type declares " ++ Bytes.ofNat params.length)
    let t : Ty := .named id (own.map fun o => .param o.2)
    return (if pointer then .pointer t else t, own)

/-- The receiver of a method, and the type parameters it names. -/
def receiverOf (f : FuncDecl) : CheckM (List (Option Name × Ty) × List (Name × TypeId)) := do
  match f.receiver with
  | some (p :: more) =>
    let several (at_ : Place) : CheckM Unit := report at_ "method has multiple receivers"
    match more.getLast? with
    | some f => several ((f.names.head?.map Name.pos).getD f.type.pos)
    | none => pure ()
    let (pointer, base, args) := receiverParts p.type
    let (t, own) ← match args with
      | none => do pure (← varType r p.type, [])
      | some args => genericReceiver r pointer base args
    match p.names with
    | _ :: second :: rest => several (((second :: rest).getLast?.map Name.pos).getD second.pos)
    | _ => pure ()
    later (.receiver (← locate p.type.pos) t)
    return ([(p.names.head?, t)], own)
  | _ => return ([], [])

/-- **A function or method.** Its body is checked after all declarations. -/
def funcDecl (i : Nat) (f : FuncDecl) : CheckM Unit := do
  modifyObj i fun o => { o with type := some (.func default), color := .black }
  let receiver : CheckM (List (Option Name × Ty) × List (Name × TypeId)) := do
    let (receiver, own) ← receiverOf r f
    modifyObj i fun o => { o with receiverParams := own.map Prod.snd }
    return (receiver, own)
  let h ← head r receiver f.typeParams f.type
  modifyObj i fun o => { o with type := some (.func h.sig), color := .grey }
  let own := (← getObj i).receiverParams
  let keep (m : Method) : Method :=
    if m.decl = some i then { m with sig := h.sig, typeParams := own } else m
  modify fun s => { s with
    types := s.types.map fun (id, info) => (id, { info with methods := info.methods.map keep }) }
  match f.body with
  | none =>
    if !f.typeParams.isEmpty then
      reportSoft f.name.pos "generic function is missing function body"
  | some b =>
    let s ← get
    if !s.skipBodies then
      later (.body { s.env with decl := some i } h.sig h.types h.bound b)

/-- Checks the receiver of a method. -/
def checkReceiver (loc : Loc) (t : Ty) : CheckM Unit := do
  let base := (TypeTable.deref t).1
  let shown ← showType base
  match base.unrename with
  | .named id _ =>
    if id.pkg ≠ (← get).path then
      reportAt loc ("cannot define new methods on non-local type " ++ shown)
    else
      match ← under base with
      | .pointer _ | .iface .. =>
        reportAt loc ("invalid receiver type " ++ shown ++ " (pointer or interface type)")
      | _ => return ()
  | .basic b =>
    if b ≠ .invalid then reportAt loc ("cannot define new methods on non-local type " ++ shown)
  | _ => reportAt loc ("invalid receiver type " ++ (← showType t))

/-- Checks an embedded field. -/
def checkEmbedded (loc : Loc) (t : Ty) : CheckM Unit := do
  let (base, isPtr) := TypeTable.deref t
  match ← under base with
  | .pointer _ => reportAt loc "embedded field type cannot be a pointer"
  | .iface .. =>
    if base.isParam then reportAt loc "embedded field type cannot be a type parameter"
    else if isPtr then reportAt loc "embedded field type cannot be a pointer to an interface"
  | _ => return ()

/-! ## Objects -/

/-- **The declaration of an object of the package**, checked once. -/
def objectDecl (i : Nat) : CheckM Unit := do
  let o ← getObj i
  match o.color with
  | .black => return ()
  | .grey =>
    let valid ← validCycle i
    match o.decl with
    | .const .. | .var .. =>
      if !valid || o.type.isNone then modifyObj i fun o => { o with type := some .invalid }
    | .type .. => if !valid then modifyObj i fun o => { o with type := some .invalid }
    | .func _ => return ()
  | .white =>
    -- a variable can get its type from another one of its group
    if o.type.isSome then
      modifyObj i fun o => { o with color := .black }
      return
    let s ← get
    set { s with stack := i :: s.stack, objs := s.objs.modify i fun o => { o with color := .grey } }
    let value := match o.decl with
      | .const .. | .var .. => some i
      | _ => none
    inEnv { file := o.file, fileName := o.loc.file, decl := value } do
      match o.decl with
      | .const type init iota inherited =>
        let (t, v) ← constDecl r type init iota o.loc.pos inherited fun t =>
          modifyObj i fun o => { o with type := some t }
        modifyObj i fun o => { o with type := some t, value := v }
      | .var type init group => varDecl r (.object i) (group.map Slot.object) type init
      | .type params isAlias e => typeDecl r i params isAlias e
      | .func f => funcDecl r i f
    modify fun s => { s with
      stack := s.stack.drop 1
      objs := s.objs.modify i fun o => { o with color := .black } }

end

end Stencil.Host.Check
