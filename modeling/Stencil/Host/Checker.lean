import Stencil.Host.Check.Growth
import Stencil.Host.Check.Stmt
import Stencil.Text.CharClass

/-!
# Checking a package

A package is checked in steps. The names of all files are collected, with the imports of
each file. Then the declarations are checked, types first, and after them the bodies of
functions. At last the order in which variables would be initialised is computed, which
shows cycles among them, imports that no file needs are reported, and if nothing is wrong,
instances without end are looked for.

What can be imported is a parameter: `Importer` says for a path which package it is, or
why there is none.
-/

namespace Stencil.Host

open Bytes

/-- What a path means: a package with all packages it needs, or why there is none. -/
abbrev Importer := Bytes → Except Bytes (Package × List Package)

/-- **What checking a package gives.** -/
structure Checked where
  /-- The problems, in order. -/
  problems : List Check.Problem
  /-- The package, as far as it is right. -/
  package : Package
  /-- The packages it imports, with those they need. -/
  imported : List Package

namespace Check

/-! ## Collecting names -/

/-- What is wrong with an import path, if anything. -/
def importPathFault? (path : Bytes) : Option Bytes :=
  if path.isEmpty then some "empty string"
  else
    let illegal : Bytes := Bytes.ofString "!\"#$%&'()*,:;<=>?[\\]^|\x7b\x7d" ++ [grave]
    (Utf8.runes path).findSome? fun c =>
      let bad := !CharClass.isPrint c.code || c.code = 0x20 || c.code = 0xfffd
        || (c.code < 0x80 && illegal.any fun b => b.toNat = c.code)
      if bad then
        let digits := upper (hex 4 c.code)
        let shown : Bytes :=
          if CharClass.isPrint c.code then " '" ++ Utf8.encode c.code ++ "'" else []
        some ("invalid character U+" ++ digits ++ shown)
      else none

/-- A new object of the package. -/
def addObj (o : Obj) : CheckM Nat := do
  let s ← get
  set { s with objs := s.objs.push o }
  return s.objs.size

/-- Declares an object in the scope of the package. -/
def declareInPackage (i : Nat) : CheckM Unit := do
  let o ← getObj i
  if o.name = "_" then return
  let s ← get
  match s.scope.find? fun e => e.1 = o.name with
  | some (_, j) =>
    let other ← getObj j
    reportAll o.loc (o.name ++ " redeclared in this block")
      [(other.loc, "other declaration of " ++ o.name)]
  | none => set { s with scope := s.scope ++ [(o.name, i)] }

/-- Declares an object that is no function. -/
def declareObj (o : Obj) (mainPackage : Bool) : CheckM Unit := do
  if o.name = "init" then reportAt o.loc "cannot declare init - must be func"
  else if o.name = "main" && mainPackage then reportAt o.loc "cannot declare main - must be func"
  else
    let i ← addObj o
    declareInPackage i

/-- The last part of a path, which is the name of a package that cannot be loaded. -/
def lastElement (path : Bytes) : Bytes :=
  let path := if endsWith path "/" then path.dropLast else path
  ((cutLast? slash path).map Prod.snd).getD path

/-- The folder of a file. -/
def folder (file : Bytes) : Bytes := ((cutLast? slash file).map Prod.fst).getD "."

/-- What is known about loading one path for the files of one folder. -/
structure Loaded where
  /-- The path. -/
  path : Bytes
  /-- The folder. -/
  dir : Bytes
  /-- The name of the package. -/
  name : Bytes
  /-- Whether the package could not be loaded. -/
  fake : Bool

/-- Loads a package, once for each path and folder. -/
def load (imports : Importer) (pos : Place) (path dir : Bytes) (loaded : List Loaded) :
    CheckM (Loaded × List Loaded) := do
  match loaded.find? fun l => l.path = path && l.dir = dir with
  | some l => return (l, loaded)
  | none =>
    let (name, fake) ← match imports path with
      | .ok (p, needed) =>
        if p.name.isEmpty || p.name = "_" then
          report pos ("could not import " ++ path ++ " (invalid package name: "
            ++ Quoted.quote p.name ++ ")")
          pure (lastElement path, true)
        else
          let s ← get
          let fresh := (p :: needed).filter fun q => !s.packages.any fun k => k.path = q.path
          set { s with
            packages := s.packages ++ fresh
            types := s.types ++ fresh.flatMap Package.types }
          pure (p.name, false)
      | .error why =>
        report pos ("could not import " ++ path ++ " (" ++ why ++ ")")
        pure (lastElement path, true)
    let l : Loaded := ⟨path, dir, name, fake⟩
    return (l, loaded ++ [l])

/-- Where a name that an import declares comes from: the import itself, or a file of its
package. -/
def fileNameLoc (n : FileName) : CheckM Loc := do
  let s ← get
  let imp := (s.imports[n.source]?).getD default
  match n.object with
  | none => return imp.loc
  | some _ =>
    let package := (s.packages.find? fun p => p.path = imp.path).getD default
    return ⟨package.file, {}⟩

/-- The names that a file declares by an import: its own, or with a dot instead of a name
the exported ones of the package. -/
def declareImport (file : Nat) (i : Nat) (imp : Import) : CheckM Unit := do
  if imp.name = "_" then return
  let s ← get
  let package := s.packages.find? fun p => p.path = imp.path
  let entries : List FileName :=
    if imp.name ≠ "." then [{ name := imp.name, source := i }]
    else ((package.map Package.objects).getD []).filterMap fun (n, o) =>
      if isExported n then some { name := n, source := i, object := some o } else none
  let mut names := ((s.fileScopes.find? fun f => f.1 = file).map Prod.snd).getD []
  for e in entries do
    match names.find? fun n => n.name = e.name with
    | some other =>
      reportAll imp.loc (e.name ++ " redeclared in this block")
        [(← fileNameLoc other, "other declaration of " ++ e.name)]
    | none => names := names ++ [e]
  let found := names
  modify fun s => { s with
    fileScopes := (s.fileScopes.filter fun f => f.1 ≠ file) ++ [(file, found)] }

/-- Collects an import. -/
def collectImport (imports : Importer) (file : Nat) (fileName : Bytes) (name : Option Name)
    (pos : Place) (literal : Bytes) (loaded : List Loaded) : CheckM (List Loaded) := do
  if literal.isEmpty then return loaded
  let path := (Quoted.unquote? literal).getD []
  match importPathFault? path with
  | some why =>
    report pos ("invalid import path (" ++ why ++ ")")
    return loaded
  | none =>
    let (l, loaded) ← load imports pos path (folder fileName) loaded
    let shown := (name.map Name.text).getD l.name
    let place := (name.map Name.pos).getD pos
    if shown = "init" then
      report place "cannot import package as init - init must be a func"
      return loaded
    let imp : Import := ⟨shown, path, ← locate place, l.fake, l.fake⟩
    let s ← get
    set { s with imports := s.imports.push imp }
    declareImport file s.imports.size imp
    return loaded

/-- Collects one specification of a declaration. -/
def collectSpec (file : Nat) (fileName : Bytes) (mainPackage : Bool) (spec : Spec) :
    CheckM Unit := do
  let place (p : Place) : Loc := ⟨fileName, p⟩
  match spec with
  | .importing .. => return ()
  | .consts names type values iota inherited =>
    arity names values true inherited
    let mut k := 0
    for n in names do
      let d : Declaration := .const type values[k]? iota inherited
      declareObj { name := n.text, loc := place n.pos, file := file, decl := d } mainPackage
      k := k + 1
  | .vars names type values =>
    if type.isNone || !values.isEmpty then arity names values false false
    let first := (← get).objs.size
    let shared := values.length = 1 && 1 < names.length
    let group := if shared then (List.range names.length).map (first + ·) else []
    let mut k := 0
    for n in names do
      let init := if shared then values.head? else values[k]?
      let d : Declaration := .var type init group
      declareObj { name := n.text, loc := place n.pos, file := file, decl := d } mainPackage
      k := k + 1
  | .typing name params isAlias e =>
    let d : Declaration := .type params isAlias e
    declareObj { name := name.text, loc := place name.pos, file := file, decl := d } mainPackage

/-- The name of the type a receiver is based on. -/
def receiverBase : Expr → Option Bytes
  | .ident n => some n.text
  | .paren _ x => receiverBase x
  | .star _ x => receiverBase x
  | .index x _ => receiverBase x
  | _ => none

/-- Collects a function or method; a method is given back with the name of its base. -/
def collectFunc (file : Nat) (fileName : Bytes) (mainPackage : Bool) (f : FuncDecl) :
    CheckM (List (Nat × Bytes)) := do
  let name := f.name.text
  let d : Declaration := .func f
  let o : Obj := { name, loc := ⟨fileName, f.name.pos⟩, file := file, decl := d }
  match f.receiver with
  | some (p :: _) =>
    let i ← addObj o
    match receiverBase p.type with
    | some b => return if name = "_" then [] else [(i, b)]
    | none => return []
  | r =>
    if r.isSome then report f.pos "method has no receiver"
    if name = "init" || (name = "main" && mainPackage) then
      let ft := f.type
      match f.typeParams with
      | p :: _ =>
        reportSoft ((p.names.head?.map Name.pos).getD p.type.pos)
          ("func " ++ name ++ " must have no type parameters")
      | [] => pure ()
      if !ft.params.isEmpty || ft.hasResults then
        reportSoft f.name.pos ("func " ++ name ++ " must have no arguments and no return values")
    let i ← addObj o
    if name = "init" then
      if f.body.isNone then reportSoft f.name.pos "missing function body"
    else declareInPackage i
    return []

/-- The declared type of the package that a name means, through other names of it. -/
def baseType (s : State) : Nat → Bytes → Option Nat
  | 0, _ => none
  | n + 1, name =>
    match s.scope.find? fun e => e.1 = name with
    | none => none
    | some (_, i) =>
      match s.objs[i]? with
      | some o =>
        match o.decl with
        | .type _ false _ => some i
        | .type _ true e =>
          match receiverBase e with
          | some b => baseType s n b
          | none => none
        | _ => none
      | none => none

/-- **Collects the names of all files.** -/
def collectObjects (imports : Importer) (files : List (Nat × File)) : CheckM Unit := do
  let mainPackage := (← get).name = "main"
  let mut loaded : List Loaded := []
  let mut methods : List (Nat × Bytes) := []
  for (k, f) in files do
    modify fun s => { s with env := { file := k, fileName := f.name } }
    for d in f.decls do
      match d with
      | .bad => pure ()
      | .group specs =>
        for spec in specs do
          match spec with
          | .importing name pos path =>
            loaded ← collectImport imports k f.name name pos path loaded
          | spec => collectSpec k f.name mainPackage spec
      | .func fd => methods := methods ++ (← collectFunc k f.name mainPackage fd)
  let s ← get
  for (_, names) in s.fileScopes do
    for n in names do
      let name := n.name
      match s.scope.find? fun e => e.1 = name with
      | none => pure ()
      | some (_, j) =>
        let o ← getObj j
        let imp := (s.imports[n.source]?).getD default
        let how : Bytes := if n.object.isSome then "dot-import" else "import"
        let pkgName := ((s.packages.find? fun p => p.path = imp.path).map Package.name).getD
          (lastElement imp.path)
        reportAll o.loc (name ++ " already declared through " ++ how ++ " of package " ++ pkgName
          ++ " (" ++ Quoted.quote imp.path ++ ")")
          [(← fileNameLoc n, "other declaration of " ++ name)]
  let bound := methods.filterMap fun (i, b) => (baseType s s.objs.size b).map fun t => (t, i)
  let owners := (bound.map Prod.fst).eraseDups
  modify fun s => { s with
    env := {}
    methods := owners.map fun t => (t, (bound.filter fun b => b.1 = t).map Prod.snd) }

/-! ## The order of initialisation -/

/-- A value in the order of initialisation: what it still waits for, and what waits for
it. -/
structure Node where
  /-- The number of the object. -/
  obj : Nat
  /-- What it refers to. -/
  succ : List Nat
  /-- What refers to it. -/
  pred : List Nat
  deriving Inhabited

/-- The list with an element added, if it is not in it. -/
def addOnce (l : List Nat) (a : Nat) : List Nat := if l.contains a then l else l ++ [a]

/-- What the declaration of an object refers to. Variables that share a value share its
references. -/
def depsOf (s : State) (i : Nat) : List Nat :=
  match s.objs[i]? with
  | none => []
  | some o =>
    let group := match o.decl with
      | .var _ _ g => if g.isEmpty then [i] else g
      | _ => [i]
    let all := group.flatMap fun k => ((s.objs[k]?).map Obj.deps).getD []
    (all.foldl addOnce []).mergeSort (· ≤ ·)

/-- Takes a function out of the graph: what refers to it then refers to what it refers
to. -/
def removeNode (g : List Node) (n : Node) : List Node :=
  (g.filter fun m => m.obj ≠ n.obj).map fun m =>
    let succ := if m.succ.contains n.obj then
        ((n.succ.filter (· ≠ n.obj)).foldl addOnce (m.succ.filter (· ≠ n.obj)))
      else m.succ
    let pred := if m.pred.contains n.obj then
        ((n.pred.filter (· ≠ n.obj)).foldl addOnce (m.pred.filter (· ≠ n.obj)))
      else m.pred
    { m with succ := succ, pred := pred }

/-- A path from an object to another one, last object first. -/
def findPath (s : State) (target : Nat) : Nat → Nat → List Nat → Option (List Nat) × List Nat
  | 0, _, seen => (none, seen)
  | n + 1, at_, seen =>
    if seen.contains at_ then (none, seen)
    else
      (depsOf s at_).foldl (fun (found, seen) d =>
        match found with
        | some _ => (found, seen)
        | none =>
          if d = target then (some [d], seen)
          else
            match findPath s target n d seen with
            | (some p, seen) => (some (p ++ [d]), seen)
            | (none, seen) => (none, seen)) (none, at_ :: seen)

/-- Reports values that need each other. -/
def initCycle (path : List Nat) : CheckM Unit := do
  let objs ← path.mapM getObj
  match objs with
  | [] => return ()
  | [o] => reportAt o.loc ("initialization cycle: " ++ o.name ++ " refers to itself")
  | o :: rest =>
    let ring := o :: rest.reverse
    let next := rest.reverse ++ [o]
    reportAll o.loc ("initialization cycle for " ++ o.name)
      ((ring.zip next).map fun (a, b) => (a.loc, a.name ++ " refers to " ++ b.name))

/-- Takes values out of the graph one by one: constants first, then those that wait for
least, then those declared first. -/
def initOrderFrom : Nat → List (Nat × Nat × List Nat) → CheckM Unit
  | 0, _ => return ()
  | n + 1, queue => do
    let objs := (← get).objs
    let isConst (i : Nat) : Bool := match (objs[i]?).map Obj.decl with
      | some (.const ..) => true
      | _ => false
    let before (a b : Nat × Nat × List Nat) : Bool :=
      if isConst a.1 != isConst b.1 then isConst a.1
      else a.2.1 < b.2.1 || (a.2.1 = b.2.1 && a.1 < b.1)
    let first := queue.foldl (fun (best : Option (Nat × Nat × List Nat)) q =>
      match best with
      | none => some q
      | some b => if before q b then some q else some b) none
    match first with
    | none => return ()
    | some (i, waits, pred) =>
      if 0 < waits then
        let s ← get
        match (findPath s i (s.objs.size + 1) i []).1 with
        | some path => initCycle path
        | none => pure ()
      let rest := queue.filter fun q => q.1 ≠ i
      initOrderFrom n
        (rest.map fun (k, w, p) => if pred.contains k then (k, w - 1, p) else (k, w, p))

/-- **Finds cycles among the values of the package.** -/
def initOrder : CheckM Unit := do
  let s ← get
  let isValue (i : Nat) : Bool := match (s.objs[i]?).map Obj.decl with
    | some (.type ..) | none => false
    | _ => true
  let isFunc (i : Nat) : Bool := match (s.objs[i]?).map Obj.decl with
    | some (.func _) => true
    | _ => false
  let values := (List.range s.objs.size).filter isValue
  let edges := values.map fun i => (i, (depsOf s i).filter isValue)
  let nodes := edges.map fun (i, succ) =>
    ({ obj := i, succ := succ
       pred := (edges.filter fun e => e.2.contains i).map Prod.fst } : Node)
  let graph := values.foldl (fun g i =>
    if isFunc i then
      match g.find? fun n => n.obj = i with
      | some n => removeNode g n
      | none => g
    else g) nodes
  initOrderFrom graph.length (graph.map fun n => (n.obj, n.succ.length, n.pred))

/-! ## The package -/

/-- Reports the imports that are not used. -/
def unusedImports : CheckM Unit := do
  let s ← get
  if s.skipBodies then return
  for i in s.imports.toList do
    if i.name ≠ "_" && !i.used then
      let head := Quoted.quote i.path ++ " imported "
      let last := ((cutLast? slash i.path).map Prod.snd).getD i.path
      let msg := if i.name.isEmpty || i.name = "." || i.name = last then head ++ "and not used"
        else head ++ "as " ++ i.name ++ " and not used"
      reportAll i.loc msg [] true

/-- The files that belong to the package, which takes its name from the first of them. -/
def initFiles (files : List File) : CheckM (List (Nat × File)) := do
  let mut out : List (Nat × File) := []
  let mut k := 0
  for f in files do
    let name := f.package.text
    let known := (← get).name
    let loc (p : Place) : Loc := ⟨f.name, p⟩
    if known.isEmpty then
      if name = "_" then reportAt (loc f.package.pos) "invalid package name _"
      else modify fun s => { s with name := name }
      out := out ++ [(k, f)]
    else if known = name then out := out ++ [(k, f)]
    else
      reportAt (loc f.packagePos) ("package " ++ name ++ "; expected package " ++ known)
    k := k + 1
  return out

/-- Checks all declarations: types, then other names of types, then the rest. -/
def packageObjects (r : Rules) : CheckM Unit := do
  let s ← get
  let all := (List.range s.objs.size).map fun i => (i, (s.objs[i]?).getD default)
  let kind (o : Obj) : Nat := match o.decl with
    | .type _ isAlias _ => if isAlias then 1 else 0
    | _ => 2
  for k in [0, 1, 2] do
    for (i, o) in all do
      if kind o = k then r.object i

/-- The package as its importers could see it, private names included. -/
def packageOf (s : State) : Package :=
  let object (i : Nat) : Option Object := do
    let o ← s.objs[i]?
    let t := o.type.getD .invalid
    match o.decl with
    | .const .. => return .const t o.value
    | .var .. => return .var t
    | .type .. => return .type t
    | .func _ =>
      match t with
      | .func sig => return .func sig
      | _ => return .func default
  let objects := s.scope.filterMap fun (n, i) => (object i).map fun o => (n, o)
  let clear (m : Method) : Method := { m with decl := none }
  { path := s.path
    name := s.name
    objects := objects.mergeSort fun a b => Bytes.le a.1 b.1
    types := (s.types.filter fun t => t.1.pkg = s.path).map fun (id, i) =>
      (id, { i with methods := i.methods.map clear })
    imports := dedup (s.imports.toList.map Import.path)
    file := (s.files.head?.map File.name).getD [] }

/-- All steps of checking a package. -/
def checkAll (imports : Importer) (files : List File) : CheckM Unit := do
  modify fun s => { s with files := files }
  let files ← initFiles files
  collectObjects imports files
  directCycles
  let r := rules (← get).limit
  packageObjects r
  drain (fun _ => r) 0
  initOrder
  unusedImports
  if (← get).problems.isEmpty then instanceCycles

end Check

/-- **Checks the files of a package.** Bodies of functions can be left out. The number of
steps of any kind is bounded by `limit`, which has to be at least the size of the files. -/
def check (imports : Importer) (path : Bytes) (skipBodies : Bool) (limit : Nat)
    (files : List File) : Checked :=
  let start : Check.State := { path := path, skipBodies := skipBodies, limit := limit }
  let s := (Check.checkAll imports files).run start |>.2
  { problems := s.problems.reverse, package := Check.packageOf s, imported := s.packages }

end Stencil.Host
