import Stencil.Host.Package

/-!
# The state of checking a package

Checking a package walks over its declarations and bodies, learns the types of its
objects as it needs them, and collects problems. This module holds what it knows on the
way: the objects and their types, the scopes, the variables that have been used, and the
work that is put off until the current declaration or statement is done.
-/

namespace Stencil.Host.Check

open Bytes

/-- Something wrong with a package. -/
structure Problem where
  /-- Where. -/
  loc : Loc
  /-- The message; a further place of the problem before starts with a tab. -/
  msg : Bytes
  /-- Whether the package has a meaning all the same. -/
  soft : Bool := false
  deriving DecidableEq, Repr, Inhabited

/-- **What a name means.** -/
inductive Entity where
  /-- A predeclared function. -/
  | builtin (name : Bytes)
  /-- The value nil. -/
  | nil
  /-- The number of a constant in its group. -/
  | iota
  /-- A constant. -/
  | const (type : Ty) (value : Const)
  /-- A type. -/
  | type (t : Ty)
  /-- An import of the file. -/
  | imported (i : Nat)
  /-- A name that an import of the file brings along. -/
  | foreign (i : Nat) (o : Object)
  /-- An object of the package. -/
  | object (i : Nat)
  /-- A variable of a function. -/
  | var (i : Nat)
  /-- Another name of a type, inside its own declaration. -/
  | defining (loc : Loc)
  deriving Inhabited

/-- The names of one scope. -/
structure Frame where
  /-- The number of the scope, in order of opening. -/
  id : Nat
  /-- Names, what they mean and where they are declared. -/
  names : List (Bytes × Entity × Loc) := []
  deriving Inhabited

/-- Where checking is at the moment. -/
structure Env where
  /-- The number of the file. -/
  file : Nat := 0
  /-- The name of the file. -/
  fileName : Bytes := []
  /-- The scopes inside the file, innermost first. -/
  frames : List Frame := []
  /-- The number of the function body, zero outside. -/
  body : Nat := 0
  /-- The function whose body this is. -/
  sig : Option Sig := none
  /-- The variables of named results. -/
  results : List Nat := []
  /-- The number of a constant in its group. -/
  iota : Option Nat := none
  /-- The object of the package whose declaration this is part of. -/
  decl : Option Nat := none
  /-- Where problems are reported instead, inside a value taken from a declaration before. -/
  reportAt : Option Place := none
  deriving Inhabited

/-- What a variable of a function is. -/
inductive VarKind where
  /-- A variable of the body. -/
  | plain
  /-- The receiver of a method. -/
  | receiver
  /-- A parameter. -/
  | parameter
  /-- A result. -/
  | result
  deriving DecidableEq, Inhabited

/-- How messages call a kind of variable. -/
def VarKind.name : VarKind → Bytes
  | .plain => "local variable"
  | .receiver => "receiver"
  | .parameter => "parameter"
  | .result => "result variable"

/-- A name that the head of a function declares. -/
structure Bound where
  /-- The name. -/
  name : Name
  /-- The type. -/
  type : Ty
  /-- What it is. -/
  kind : VarKind
  deriving Inhabited

/-- A variable of a function. -/
structure Variable where
  /-- The name. -/
  name : Bytes
  /-- The type, once it is known. -/
  type : Option Ty
  /-- Where it is declared. -/
  loc : Loc
  /-- Whether its value is used. -/
  used : Bool
  /-- Whether it has to be used. -/
  needsUse : Bool
  /-- The function body it belongs to. -/
  body : Nat
  /-- The scope it belongs to. -/
  scope : Nat
  /-- What it is. -/
  kind : VarKind := .plain
  deriving Inhabited

/-- How an object of the package is declared. -/
inductive Declaration where
  /-- A constant: its type and value as written, its number in its group, and whether type
  and value are taken from a declaration before. -/
  | const (type init : Option Expr) (iota : Nat) (inherited : Bool)
  /-- A variable: its type and value as written, and all variables that share the value. -/
  | var (type init : Option Expr) (group : List Nat)
  /-- A type, with its type parameters. -/
  | type (typeParams : List Field) (isAlias : Bool) (expr : Expr)
  /-- A function or method. -/
  | func (f : FuncDecl)
  deriving Inhabited

/-- How far an object is known. -/
inductive Color where
  /-- Not at all. -/
  | white
  /-- It is being looked at. -/
  | grey
  /-- Completely. -/
  | black
  deriving DecidableEq, Inhabited

/-- An object of the package. -/
structure Obj where
  /-- The name. -/
  name : Bytes
  /-- Where it is declared. -/
  loc : Loc
  /-- The file it is declared in. -/
  file : Nat
  /-- How it is declared. -/
  decl : Declaration
  /-- How far it is known. -/
  color : Color := .white
  /-- Its type, once it is known. -/
  type : Option Ty := none
  /-- Its value, if it is a constant. -/
  value : Const := .unknown
  /-- The objects its declaration refers to. -/
  deps : List Nat := []
  /-- The names the receiver of a method gives to the type parameters. -/
  receiverParams : List TypeId := []
  deriving Inhabited

/-- An import of a file. -/
structure Import where
  /-- The name it is known by. -/
  name : Bytes
  /-- The path. -/
  path : Bytes
  /-- Where it stands. -/
  loc : Loc
  /-- Whether it is used. -/
  used : Bool
  /-- Whether the package could not be loaded. -/
  fake : Bool
  deriving Inhabited

/-- A name that an import declares in its file. -/
structure FileName where
  /-- The name. -/
  name : Bytes
  /-- The number of the import. -/
  source : Nat
  /-- What the name means, unless it is that of the import itself. -/
  object : Option Object := none
  deriving Inhabited

/-- Work that is put off. -/
inductive Task where
  /-- Checking the body of a function, whose scope has the names of its type parameters. -/
  | body (env : Env) (sig : Sig) (types : List (Name × Ty)) (bound : List Bound) (block : Block)
  /-- Checking that fields and methods of a type have different names. -/
  | members (obj : Nat)
  /-- Checking that a type does not contain itself. -/
  | containment (obj : Nat)
  /-- Checking that a type of a function does not contain itself. -/
  | localContainment (id : TypeId) (loc : Loc)
  /-- Checking that the methods of an interface, and those of the types embedded in it, have
  different names. -/
  | interface (methods : List (MethodTy × Loc)) (embedded : List (Ty × Loc))
  /-- Checking that two methods of one name are the same. -/
  | overlap (loc other : Loc) (a b : MethodTy)
  /-- Checking that the keys of a map can be compared. -/
  | mapKey (loc : Loc) (key : Ty)
  /-- Checking the receiver of a method. -/
  | receiver (loc : Loc) (type : Ty)
  /-- Checking an embedded field. -/
  | embedded (loc : Loc) (type : Ty)
  /-- Checking that variables can have a type, which is more than a constraint. -/
  | varType (loc : Loc) (type : Ty)
  /-- Checking the alternatives of a constraint. -/
  | union (terms : List (Term × Loc))
  /-- Checking the type arguments of a declared type, each with its place. -/
  | instance_ (loc : Loc) (id : TypeId) (args : List (Ty × Loc))
  /-- Checking the type arguments of a function; those that are written have a place. -/
  | arguments (loc : Loc) (params : List TypeParam) (args : List Ty) (written : List Loc)
  deriving Inhabited

/-- A type argument that satisfies its constraint. -/
structure Assigned where
  /-- The type parameter. -/
  param : TypeId
  /-- The type it stands for. -/
  type : Ty
  /-- Where that is written. -/
  loc : Loc

/-- A type that is declared in a generic function. -/
structure Ambient where
  /-- The type. -/
  id : TypeId
  /-- Where it is declared. -/
  loc : Loc
  /-- The type parameters around it. -/
  params : List TypeId

/-- **What is known while a package is checked.** -/
structure State where
  /-- The path of the package. -/
  path : Bytes
  /-- The name of the package. -/
  name : Bytes := []
  /-- The files. -/
  files : List File := []
  /-- Whether bodies are left out. -/
  skipBodies : Bool
  /-- A bound on the number of steps of any kind. -/
  limit : Nat
  /-- The imported packages, with those they import. -/
  packages : List Package := []
  /-- The problems so far, latest first. -/
  problems : List Problem := []
  /-- The declared types, of this package and the imported ones. -/
  types : TypeTable := .predeclared
  /-- The objects of the package. -/
  objs : Array Obj := #[]
  /-- The names of the package. -/
  scope : List (Bytes × Nat) := []
  /-- The imports of all files. -/
  imports : Array Import := #[]
  /-- The names of the imports of each file. -/
  fileScopes : List (Nat × List FileName) := []
  /-- The methods of each type, by the numbers of their declarations. -/
  methods : List (Nat × List Nat) := []
  /-- The variables of functions. -/
  vars : Array Variable := #[]
  /-- The number of the next scope, body or local type. -/
  counter : Nat := 1
  /-- Work that is put off. -/
  tasks : Array Task := #[]
  /-- The type arguments so far, latest first. -/
  assigned : List Assigned := []
  /-- The types declared in generic functions. -/
  ambient : List Ambient := []
  /-- The objects that are being looked at, innermost first. -/
  stack : List Nat := []
  /-- Whether the body has a label or a jump to one. -/
  hasLabel : Bool := false
  /-- Whether the expression contains a call or receives. -/
  hasCall : Bool := false
  /-- Where checking is. -/
  env : Env := {}

/-- A step of checking. -/
abbrev CheckM := StateM State

/-! ## Problems -/

/-- A place of the current file. -/
def locate (p : Place) : CheckM Loc := do
  return ⟨(← get).env.fileName, p⟩

/-- Where a problem at a place is reported. -/
def problemLoc (p : Place) : CheckM Loc := do
  locate ((← get).env.reportAt.getD p)

/-- Whether a message repeats that something before was wrong. -/
def isFollowUp (msg : Bytes) : Bool :=
  let later (p : Bytes) : Bool :=
    match indexOf? p msg with
    | some i => 0 < i
    | none => false
  later "invalid operand" || later "invalid type"

/-- Reports a problem with its further places. What merely follows from another problem
is left out. -/
def reportAll (loc : Loc) (msg : Bytes) (notes : List (Loc × Bytes)) (soft : Bool := false) :
    CheckM Unit :=
  modify fun s =>
    if !s.problems.isEmpty && isFollowUp msg then s
    else
      let first : Problem := ⟨loc, msg, soft⟩
      let further := notes.map fun (l, m) => (⟨l, 0x09 :: m, soft⟩ : Problem)
      { s with problems := further.reverse ++ first :: s.problems }

/-- Reports a problem at a place. -/
def reportAt (loc : Loc) (msg : Bytes) : CheckM Unit := reportAll loc msg []

/-- Reports a problem at a place of the current file. -/
def report (p : Place) (msg : Bytes) : CheckM Unit := do
  reportAt (← problemLoc p) msg

/-- Reports a problem that leaves the package its meaning. -/
def reportSoft (p : Place) (msg : Bytes) : CheckM Unit := do
  reportAll (← problemLoc p) msg [] true

/-- The places of a file from which on positions are shown differently. -/
def marksOf (files : List File) (name : Bytes) : List LineMark :=
  ((files.find? fun f => f.name = name).map File.marks).getD []

/-- Where a place is shown. -/
def siteOf (l : Loc) : CheckM Site := do
  return LineMark.locate (marksOf (← get).files l.file) l.file l.pos

/-- A place as messages quote it. -/
def showLoc (l : Loc) : CheckM Bytes := do return (← siteOf l).render

/-- Whether the current file may use what a minor version of the language brought. -/
def allows (version : Nat) : CheckM Bool := do
  let s ← get
  match (s.files[s.env.file]?).bind File.version with
  | some v => return version ≤ v
  | none => return true

/-- What is said of something the current file may not use. -/
def requires (version : Nat) : Bytes := "requires go1." ++ Bytes.ofNat version ++ " or later"

/-! ## Types in messages -/

/-- How the packages of types are written in messages: not at all for the package itself,
by path if two packages have one name. -/
def qualifier (s : State) : Qualifier := fun path =>
  if path = s.path then []
  else
    match s.packages.find? fun p => p.path = path with
    | none => (cutLast? slash path).map Prod.snd |>.getD path
    | some p =>
      let others := s.packages.filter fun q => q.name = p.name && q.path ≠ path
      if s.name = p.name || !others.isEmpty then Quoted.quote path else p.name

/-- A type as messages write it. -/
def showType (t : Ty) : CheckM Bytes := do
  let s ← get
  return s.types.render (qualifier s) t

/-- The table of declared types. -/
def table : CheckM TypeTable := do return (← get).types

/-- The type under a type. -/
def under (t : Ty) : CheckM Ty := do return (← table).under t

/-! ## Scopes -/

/-- Runs a step in a scope of its own. -/
def inScope (p : CheckM α) : CheckM α := do
  let s ← get
  let frames := s.env.frames
  set { s with
    counter := s.counter + 1
    env := { s.env with frames := { id := s.counter } :: frames } }
  let a ← p
  modify fun s => { s with env := { s.env with frames := frames } }
  return a

/-- Runs a step in another place. -/
def inEnv (e : Env) (p : CheckM α) : CheckM α := do
  let old := (← get).env
  modify fun s => { s with env := e }
  let a ← p
  modify fun s => { s with env := old }
  return a

/-- The predeclared names. -/
def predeclared (name : Bytes) : Option Entity :=
  let basics : List Basic := [.bool, .int, .int8, .int16, .int32, .int64, .uint, .uint8, .uint16,
    .uint32, .uint64, .uintptr, .float32, .float64, .complex64, .complex128, .string, .byte, .rune]
  let functions : List String := ["append", "cap", "clear", "close", "complex", "copy", "delete",
    "imag", "len", "make", "max", "min", "new", "panic", "print", "println", "real", "recover"]
  match basics.find? fun b => b.name = name with
  | some b => some (.type (.basic b))
  | none =>
    if name = "error" then some (.type .error)
    else if name = "any" then some (.type .any)
    else if name = "comparable" then some (.type (.named comparableId []))
    else if name = "true" then some (.const (.basic .untypedBool) (.bool true))
    else if name = "false" then some (.const (.basic .untypedBool) (.bool false))
    else if name = "iota" then some .iota
    else if name = "nil" then some .nil
    else if functions.any fun f => Bytes.ofString f = name then some (.builtin name)
    else none

/-- The entry of a name in the scopes inside the file. -/
def localEntry? (frames : List Frame) (name : Bytes) : Option (Entity × Loc) :=
  frames.findSome? fun f => (f.names.find? fun e => e.1 = name).map Prod.snd

/-- **What a name means here**: inside the function, among the imports of the file, in
the package, or everywhere. -/
def lookupName (name : Bytes) : CheckM (Option Entity) := do
  let s ← get
  match localEntry? s.env.frames name with
  | some (e, _) => return some e
  | none =>
    let file := ((s.fileScopes.find? fun f => f.1 = s.env.file).map Prod.snd).getD []
    match file.find? fun e => e.name = name with
    | some e =>
      match e.object with
      | none => return some (.imported e.source)
      | some o => return some (.foreign e.source o)
    | none =>
      match s.scope.find? fun e => e.1 = name with
      | some (_, i) => return some (.object i)
      | none => return predeclared name

/-- A new variable of the function, in no scope yet. -/
def newVar (name : Bytes) (pos : Place) (type : Option Ty) (kind : VarKind := .plain) :
    CheckM Nat := do
  let loc ← locate pos
  let s ← get
  let v : Variable := ⟨name, type, loc, false, false, s.env.body,
    (s.env.frames.head?.map Frame.id).getD 0, kind⟩
  set { s with vars := s.vars.push v }
  return s.vars.size

/-- The variable of a number. -/
def getVar (i : Nat) : CheckM Variable := do
  return ((← get).vars[i]?).getD default

/-- Changes a variable. -/
def modifyVar (i : Nat) (f : Variable → Variable) : CheckM Unit :=
  modify fun s => { s with vars := s.vars.modify i f }

/-- The object of a number. -/
def getObj (i : Nat) : CheckM Obj := do
  return ((← get).objs[i]?).getD default

/-- Changes an object. -/
def modifyObj (i : Nat) (f : Obj → Obj) : CheckM Unit :=
  modify fun s => { s with objs := s.objs.modify i f }

/-- Declares a name in the innermost scope. A name that is there already is reported. -/
def declare (name : Bytes) (pos : Place) (e : Entity) : CheckM Unit := do
  if name = "_" then return
  let loc ← locate pos
  let s ← get
  match s.env.frames with
  | [] => return
  | f :: fs =>
    match f.names.find? fun e => e.1 = name with
    | some (_, _, other) =>
      reportAll loc (name ++ " redeclared in this block") [(other, "other declaration of " ++ name)]
    | none =>
      let frame := { f with names := (name, e, loc) :: f.names }
      set { s with env := { s.env with frames := frame :: fs } }

/-- Declares a variable of the function in the innermost scope; from then on it has to be
used. -/
def declareVar (i : Nat) : CheckM Unit := do
  let v := ((← get).vars[i]?).getD default
  let count (s : State) : Nat := ((s.env.frames.head?).getD default).names.length
  let before := count (← get)
  declare v.name v.loc.pos (.var i)
  let after := count (← get)
  if before ≠ after then
    modify fun s => { s with vars := s.vars.modify i fun v => { v with needsUse := true } }

/-- Declares a name in the innermost scope unless it is there already. -/
def declareQuietly (name : Bytes) (pos : Place) (e : Entity) : CheckM Unit := do
  let known := match (← get).env.frames with
    | f :: _ => f.names.any fun e => e.1 = name
    | [] => true
  if !known then declare name pos e

/-- Gives a name that is declared at a place in the innermost scope another meaning. -/
def redefine (name : Bytes) (at_ : Loc) (e : Entity) : CheckM Unit :=
  modify fun s =>
    match s.env.frames with
    | f :: fs =>
      let names := f.names.map fun (n, old, loc) =>
        if n = name && loc = at_ then (n, e, loc) else (n, old, loc)
      { s with env := { s.env with frames := { f with names := names } :: fs } }
    | [] => s

/-- What identifies a new type that is not one of the package's own. -/
def newTypeId (name : Bytes) : CheckM TypeId := do
  let s ← get
  set { s with counter := s.counter + 1 }
  return ⟨s.path, name, s.objs.size + s.counter + 1⟩

/-- Puts work off. -/
def later (t : Task) : CheckM Unit :=
  modify fun s => { s with tasks := s.tasks.push t }

/-- Notes that the declaration under way refers to an object of the package. -/
def addDep (i : Nat) : CheckM Unit := do
  match (← get).env.decl with
  | none => return
  | some d => modifyObj d fun o => if o.deps.contains i then o else { o with deps := i :: o.deps }

/-! ## Operands -/

/-- What kind of thing an expression stands for. -/
inductive Mode where
  /-- Nothing, because something is wrong. -/
  | invalid
  /-- The result of a function without results. -/
  | noValue
  /-- A predeclared function. -/
  | builtin
  /-- A type. -/
  | typeExpr
  /-- A constant. -/
  | constant
  /-- Something addressable. -/
  | variable
  /-- An element of a map. -/
  | mapIndex
  /-- A value. -/
  | value
  /-- A value that can come with a truth value. -/
  | commaOk
  deriving DecidableEq, Inhabited

/-- How messages call a mode. -/
def Mode.name : Mode → Bytes
  | .invalid => "invalid operand"
  | .noValue => "no value"
  | .builtin => "built-in"
  | .typeExpr => "type"
  | .constant => "constant"
  | .variable => "variable"
  | .mapIndex => "map index expression"
  | .value => "value"
  | .commaOk => "comma, ok expression"

/-- A constant inside an expression of no type yet that is no constant itself. It has to
fit the type that the whole gets in the end. -/
structure Leaf where
  /-- The expression. -/
  expr : Expr
  /-- Its type so far. -/
  type : Ty
  /-- Its value. -/
  value : Const
  /-- Whether it is shifted, so that its type has to be one of integers. -/
  shifted : Bool
  deriving Inhabited

/-- **What an expression stands for.** -/
structure Operand where
  /-- The kind of thing. -/
  mode : Mode := .invalid
  /-- Its type. -/
  type : Ty := .invalid
  /-- Its value, if it is a constant. -/
  value : Const := .unknown
  /-- The expression, for messages. -/
  expr : Expr := default
  /-- What messages call it instead of the expression. -/
  label : Option Bytes := none
  /-- The constants in it that wait for its type. -/
  pending : List Leaf := []
  deriving Inhabited

/-- The constants around which there are only parentheses, from the inside. -/
def constantLeaves (type : Ty) (value : Const) : Expr → List Leaf
  | .paren p x => constantLeaves type value x ++ [⟨.paren p x, type, value, false⟩]
  | e => [⟨e, type, value, false⟩]

namespace Operand

/-- The constants of an operand that wait for its type, itself if it is one. -/
def leaves (x : Operand) : List Leaf :=
  if !x.type.isUntyped then []
  else if x.mode = .constant then constantLeaves x.type x.value x.expr
  else x.pending

/-- Whether the operand stands for anything. -/
def ok (x : Operand) : Bool := x.mode ≠ .invalid

/-- Whether the operand is nil. -/
def isNil (x : Operand) : Bool := x.mode = .value && x.type.isNil

/-- Where the operand is. -/
def pos (x : Operand) : Place := x.expr.pos

/-- The operand, wrong. -/
def bad (e : Expr) : Operand := { expr := e }

end Operand

/-- An operand as messages describe it: the expression, and in parentheses what it is. -/
def showOperand (x : Operand) : CheckM Bytes := do
  if x.isNil then return "nil"
  let expr := x.label.getD x.expr.render
  let typed := match x.mode with
    | .invalid | .noValue | .builtin | .typeExpr => false
    | _ => true
  let untyped : Bytes := match x.type with
    | .basic b => if typed && b.isUntyped then b.name ++ " " else []
    | _ => []
  let value : Bytes :=
    if x.mode = .constant && x.value.render ≠ expr then " " ++ x.value.render else []
  let type ← do
    if !typed || !untyped.isEmpty then pure ([] : Bytes)
    else if x.type.isInvalid then pure (" with invalid type" : Bytes)
    else
      let w ← table
      let kind := w.kindName x.type
      let generic : Bytes := if w.isGeneric x.type then "generic " else []
      let shown ← showType x.type
      match x.type.unrename with
      | .param id =>
        let none : Bytes := if (w.typeSet x.type).isEmpty then " with empty type set" else []
        pure (" of type " ++ shown ++ " constrained by " ++ (← showType (w.boundOf id)) ++ none)
      | _ =>
        let what : Bytes := match x.type with
          | .named .. | .renamed .. =>
            if kind.isEmpty then
              match w.basic? x.type with
              | some b => b.name ++ " "
              | none => []
            else kind ++ " "
          | _ => []
        pure (" of " ++ generic ++ what ++ "type " ++ shown)
  let inner := untyped ++ x.mode.name ++ value ++ type
  return if expr.isEmpty then inner else expr ++ " (" ++ inner ++ ")"

end Stencil.Host.Check
