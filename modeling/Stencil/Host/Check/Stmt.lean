import Stencil.Host.Check.Decl

/-!
# Statements and function bodies

Statements are checked in order, each in the scopes around it. Work that an expression
puts off, such as the body of a function literal, is done at the end of its statement,
while the scopes are still the same. Variables that are never used are reported at the end
of the body, in the order of scopes and places.
-/

namespace Stencil.Host.Check

open Bytes

section

variable (r : Unit → Rules)

/-- Does the work put off from number `i` on, also work that is put off meanwhile. -/
def drainFrom : Nat → Nat → CheckM Unit
  | 0, _ => return ()
  | n + 1, i => do
    match (← get).tasks[i]? with
    | none => return ()
    | some t =>
      (r ()).task t
      drainFrom n (i + 1)

/-- **Does the work put off since there were `top` pieces of it.** -/
def drain (top : Nat) : CheckM Unit := do
  drainFrom r (← get).limit top
  modify fun s => { s with tasks := s.tasks.extract 0 top }

/-! ## Local declarations -/

/-- Compares the numbers of names and values. If the values are taken from a specification
before, what is wrong is told at the names. -/
def arity (names : List Name) (values : List Expr) (isConst inherited : Bool) : CheckM Unit := do
  if names.length < values.length then
    match values[names.length]? with
    | some e =>
      if inherited then
        report ((names.head?.map Name.pos).getD e.pos)
          ("extra init expr at " ++ (← showLoc (← locate e.pos)))
      else report e.pos ("extra init expr " ++ e.render)
    | none => pure ()
  else if values.length < names.length && (isConst || values.length ≠ 1) then
    match names[values.length]? with
    | some n => report n.pos ("missing init expr for " ++ n.text)
    | none => pure ()

/-- Variables declared in a function. -/
def localVars (names : List Name) (type : Option Expr) (values : List Expr) : CheckM Unit := do
  let top := (← get).tasks.size
  let vars ← names.mapM fun n => newVar n.text n.pos none
  let slots := vars.map Slot.var
  if values.length = 1 && 1 < names.length then
    match slots with
    | s :: _ => varDecl r s slots type values.head?
    | [] => pure ()
  else
    let inits := values.map some ++ List.replicate (names.length - values.length) none
    for (s, init) in slots.zip inits do
      varDecl r s [s] type init
  if type.isNone || !values.isEmpty then arity names values false false
  drain r top
  for i in vars do declareVar i

/-- A type declared in a function. -/
def localType (name : Name) (params : List Field) (isAlias : Bool) (e : Expr) : CheckM Unit := do
  let id ← newTypeId name.text
  let loc ← locate name.pos
  if isAlias then
    declare name.text name.pos (.defining loc)
    let t ← aliasedType r id params e
    redefine name.text loc (.type (if t.isInvalid then .invalid else .renamed id [] t))
  else
    let around := (← get).env.frames.flatMap fun f => f.names.filterMap fun (_, e, _) =>
      match e with
      | .type (.param p) => some p
      | _ => none
    if !around.isEmpty then
      modify fun s => { s with ambient := s.ambient ++ [⟨id, loc, around⟩] }
    defineType id none
    declare name.text name.pos (.type (.named id []))
    later (.localContainment id loc)
    let t ← declaredType r id params e
    defineType id (some t)

/-- Declarations in a function. -/
def localDecl (spec : Spec) : CheckM Unit := do
  match spec with
  | .importing .. => return ()
  | .consts names type values iota inherited =>
    arity names values true inherited
    let top := (← get).tasks.size
    let mut found : List (Name × Ty × Const) := []
    let mut k := 0
    for n in names do
      let (t, v) ← constDecl r type values[k]? iota n.pos inherited fun _ => pure ()
      found := found ++ [(n, t, v)]
      k := k + 1
    drain r top
    for (n, t, v) in found do declare n.text n.pos (.const t v)
  | .vars names type values => localVars r names type values
  | .typing name params isAlias e => localType r name params isAlias e

/-! ## Definitions -/

/-- **A definition** of new variables, with others assigned on the way. -/
def shortVarDecl (lhs : List Expr) (opPos : Place) (rhs : List Expr) : CheckM Unit := do
  let top := (← get).tasks.size
  let frame := ((← get).env.frames.head?).getD default
  let mut seen : List Bytes := []
  let mut slots : List Nat := []
  let mut fresh : List Nat := []
  let mut failed := false
  for e in lhs do
    match e with
    | .ident n =>
      if n.text ≠ "_" && seen.contains n.text then
        report e.pos (n.text ++ " repeated on left side of :=")
        failed := true
        slots := slots ++ [← newVar "_" e.pos none]
      else
        seen := n.text :: seen
        match frame.names.find? fun f => f.1 = n.text with
        | some (_, .var i, _) => slots := slots ++ [i]
        | some _ =>
          report e.pos ("cannot assign to " ++ e.render)
          failed := true
          slots := slots ++ [← newVar "_" e.pos none]
        | none =>
          let i ← newVar n.text n.pos none
          slots := slots ++ [i]
          if n.text ≠ "_" then fresh := fresh ++ [i]
    | e =>
      let _ ← useLeft r [e]
      report e.pos ("non-name " ++ e.render ++ " on left side of :=")
      failed := true
      slots := slots ++ [← newVar "_" e.pos none]
  initVars r (slots.map Slot.var) rhs none
  drain r top
  if fresh.isEmpty && !failed then
    reportSoft opPos "no new variables on left side of :="
  else
    for i in fresh do declareVar i

/-! ## Loops over values -/

/-- The types of the two parts a loop over a value has, or why there is no such loop. Loops
over numbers and functions need a version of the language that has them. -/
def rangeParts (w : TypeTable) (numbersOk functionsOk : Bool) (t common : Ty) :
    Except Bytes (Option Ty × Option Ty) :=
  let u := match common with
    | .pointer p =>
      match w.under p with
      | .array n e => Ty.array n e
      | _ => common
    | u => u
  let int : Ty := .basic .int
  let shape : Bytes := "func must be func(yield func(...) bool): "
  match u with
  | .basic b =>
    if b.isString then .ok (some int, some (.basic .rune))
    else if b.isInteger then
      if numbersOk then .ok (some t, none) else .error (requires 22)
    else .error []
  | .array _ e | .slice e => .ok (some int, some e)
  | .map k e => .ok (some k, some e)
  | .chan _ e => .ok (some e, none)
  | .func sig =>
    if !functionsOk then .error (requires 23) else
    match sig.params with
    | [p] =>
      if !sig.results.isEmpty then .error (shape ++ "unexpected results")
      else
        match w.under p.type with
        | .func yield =>
          let result := match yield.results with
            | [q] => q.type
            | _ => .invalid
          if 2 < yield.params.length then
            .error (shape ++ "yield func has too many parameters")
          else if !result.identical (.basic .bool) then
            .error (shape ++ (if w.isBoolean result then
              Bytes.ofString "yield func returns user-defined boolean, not bool"
            else Bytes.ofString "yield func does not return bool"))
          else .ok ((yield.params[0]?).map ParamTy.type, (yield.params[1]?).map ParamTy.type)
        | _ => .error (shape ++ "argument is not func")
    | _ => .error (shape ++ "wrong argument count")
  | _ => .error []

/-- **A loop over the parts of a value.** -/
def rangeStmt (ctx : Ctx) (start : Place) (key value : Option Expr) (define : Bool) (e : Expr)
    (body : Block) : CheckM Unit := do
  let x ← expr r none e
  let w ← table
  let (kt, vt) ← if !x.ok then pure (none, none)
    else
      let s ← get
      let refuse : Option (Ty × Ty) → Option Bytes
        | some (t, .chan .send _) =>
          some ("receive from send-only channel " ++ w.render (qualifier s) t)
        | _ => none
      let parts ← match w.commonUnder refuse x.type with
        | .error d => do pure (.error (← showDiscord d))
        | .ok common => do pure (rangeParts w (← allows 22) (← allows 23) x.type common)
      match parts with
      | .error why =>
        let tail : Bytes := if why.isEmpty then [] else ": " ++ why
        reportSoft x.pos ("cannot range over " ++ (← showOperand x) ++ tail)
        pure (none, none)
      | .ok (k, v) =>
        match key, k with
        | some p, none =>
          reportSoft p.pos ("range over " ++ (← showOperand x) ++ " permits no iteration variables")
        | _, _ =>
          match value, v with
          | some p, none =>
            reportSoft p.pos ("range over " ++ (← showOperand x)
              ++ " permits only one iteration variable")
          | _, _ => pure ()
        pure (k, v)
  let overInt := x.ok && w.isInteger x.type
  inScope do
    let pairs := [(key, kt), (value, vt)].filterMap fun (e, t) => e.map fun e => (e, t)
    if define then
      let mut fresh : List Nat := []
      for (e, t) in pairs do
        let i ← match e with
          | .ident n =>
            let i ← newVar n.text n.pos none
            if n.text ≠ "_" then fresh := fresh ++ [i]
            pure i
          | e =>
            report e.pos ("invalid syntax tree: cannot declare " ++ e.render)
            newVar "_" e.pos none
        match t with
        | none => modifyVar i fun v => { v with type := some .invalid, used := true }
        | some t =>
          if overInt then initVar r (.var i) x "range clause"
          else initVar r (.var i) { mode := .value, type := t, expr := e } "assignment"
      if fresh.isEmpty then report start "no new variables on left side of :="
      else
        for i in fresh do declareVar i
    else if pairs.isEmpty then
      if overInt then
        let _ ← assign r x none "range clause"
    else
      for (e, t) in pairs do
        match t with
        | none => pure ()
        | some t =>
          if overInt then
            let y ← assignTo r e (.inl x) "range clause"
            if y.ok && !(← table).isInteger y.type then
              reportSoft e.pos ("cannot use iteration variable of type " ++ (← showType y.type))
          else
            let _ ← assignTo r e (.inl { mode := .value, type := t, expr := e }) "assignment"
    (r ()).stmts ctx [.block body]

/-! ## Choices -/

/-- Reports further defaults of a choice. -/
def multipleDefaults (clauses : List Clause) : CheckM Unit := do
  let mut first : Option Place := none
  for c in clauses do
    let default? := match c with
      | .case p none _ | .comm p none _ => some p
      | _ => none
    match default?, first with
    | some p, none => first := some p
    | some p, some q =>
      report p ("multiple defaults (first at " ++ (← showLoc (← locate q)) ++ ")")
    | none, _ => pure ()

/-- The statements of a clause, in a scope of their own. -/
def clauseBody (ctx : Ctx) (body : List Stmt) : CheckM Unit := inScope ((r ()).stmts ctx body)

/-- A choice by value. -/
def switchStmt (ctx : Ctx) (start : Place) (tag : Option Expr) (clauses : List Clause) :
    CheckM Unit := do
  let x ← match tag with
    | some e =>
      let x ← expr r none e
      let x ← assign r x none "switch expression"
      let w ← table
      if x.ok && !w.isComparable x.type && !w.hasNil x.type then
        report x.pos ("cannot switch on " ++ (← showOperand x))
        pure (Operand.bad e)
      else pure x
    | none =>
      pure { mode := .constant, type := .basic .bool, value := .bool true,
             expr := .ident ⟨start, "true"⟩ }
  multipleDefaults clauses
  let mut seen : List (Const × Ty × Loc) := []
  let mut left := clauses.length
  for c in clauses do
    left := left - 1
    match c with
    | .case _ values body =>
      for e in values.getD [] do
        let v ← expr r none e
        if x.ok && v.ok then
          let v ← convertUntyped v x.type
          if v.ok then
            let res ← comparison r e v x "==" true
            let plain := match v.value with
              | .number .. | .text _ => true
              | _ => false
            if res.ok && v.mode = .constant && plain then
              match seen.find? fun s => s.1 = v.value && s.2.1.identical v.type with
              | some (_, _, other) =>
                reportAll (← problemLoc v.pos)
                  ("duplicate case " ++ (← showOperand v) ++ " in expression switch")
                  [(other, "previous case")]
              | none => seen := (v.value, v.type, ← locate v.pos) :: seen
      clauseBody r { ctx with
        breakOk := true, fallthroughOk := left ≠ 0, finalCase := left = 0, inTypeSwitch := false }
        body
    | .comm _ _ body => clauseBody r ctx body

/-- A choice by type. -/
def typeSwitchStmt (ctx : Ctx) (start : Place) (lhs : Option Expr) (guard : Expr)
    (clauses : List Clause) : CheckM Unit := do
  let name ← match lhs with
    | some (.ident n) =>
      if n.text = "_" then
        reportSoft n.pos "no new variable on left side of :="
        pure none
      else pure (some n)
    | some _ =>
      report start "invalid syntax tree: incorrect form of type switch guard"
      return
    | none => pure none
  let inner := match guard with
    | .assertion y none => y
    | y => y
  let x ← expr r none inner
  let w ← table
  let subject ← if !x.ok then pure none
    else if x.type.isParam then do
      report x.pos ("cannot use type switch on type parameter value " ++ (← showOperand x))
      pure none
    else if w.isInterface x.type then pure (some x)
    else do
      report x.pos ((← showOperand x) ++ " is not an interface")
      pure none
  multipleDefaults clauses
  let mut seen : List (Option Ty × Loc) := []
  let mut vars : List Nat := []
  for c in clauses do
    match c with
    | .case _ values body =>
      let mut last : Option Ty := none
      for e in values.getD [] do
        let isNil ← match e.unparen with
          | .ident n =>
            match ← lookupName n.text with
            | some .nil => pure true
            | _ => pure false
          | _ => pure false
        let t ← if isNil then pure none else do
          let t ← varType r e
          pure (some t)
        last := t
        if !(t.getD (.basic .int)).isInvalid then
          let same (o : Option Ty) : Bool := match t, o with
            | none, none => true
            | some a, some b => a.identical b
            | _, _ => false
          match seen.find? fun s => same s.1 with
          | some (_, other) =>
            let shown ← match t with
              | some t => showType t
              | none => pure "nil"
            reportAll (← problemLoc e.pos) ("duplicate case " ++ shown ++ " in type switch")
              [(other, "previous case")]
          | none =>
            seen := (t, ← locate e.pos) :: seen
            match subject, t with
            | some x, some t =>
              if !(← table).isInterface t then
                ensureMethods r 4 t
                match (← table).lacks? t x.type with
                | some l =>
                  report e.pos ("impossible type switch case: " ++ e.render ++ "\n\t"
                    ++ (← showOperand x) ++ " cannot have dynamic type " ++ (← showType t) ++ " "
                    ++ (← showLack t l))
                | none => pure ()
            | _, _ => pure ()
      let whole := (subject.map Operand.type).getD .invalid
      let t := match values, last with
        | some [_], some t => t
        | _, _ => whole
      let declared ← inScope do
        let i ← match name with
          | none => pure none
          | some n =>
            let i ← newVar n.text n.pos (some t)
            declare n.text n.pos (.var i)
            pure (some i)
        (r ()).stmts { ctx with breakOk := true, inTypeSwitch := true, fallthroughOk := false,
                                finalCase := false } body
        return i
      vars := vars ++ declared.toList
    | .comm _ _ body => clauseBody r ctx body
  match name with
  | none => return ()
  | some n =>
    let used ← vars.anyM fun i => do return (← getVar i).used
    if !used then reportSoft n.pos (n.text ++ " declared and not used")

/-- A choice by communication. -/
def selectStmt (ctx : Ctx) (clauses : List Clause) : CheckM Unit := do
  multipleDefaults clauses
  let receives (e : Expr) : Bool := match e.unparen with
    | .unary _ op _ => op = "<-"
    | _ => false
  for c in clauses do
    match c with
    | .comm _ comm body =>
      let valid := match comm with
        | none | some (.send ..) => true
        | some (.assign _ _ _ [e]) | some (.expr e) => receives e
        | _ => false
      if !valid then
        report ((comm.map Stmt.pos).getD {})
          "select case must be send or receive (possibly with assignment)"
      else
        inScope do
          match comm with
          | some s => (r ()).stmts ctx [s]
          | none => pure ()
          (r ()).stmts { ctx with breakOk := true } body
    | .case _ _ body => clauseBody r ctx body

/-! ## Statements -/

/-- A condition. -/
def condition (e : Expr) (what : Bytes) : CheckM Unit := do
  let x ← expr r none e
  if x.ok && !(← table).isBoolean x.type then
    report e.pos ("non-boolean condition in " ++ what ++ " statement")

/-- A call that happens on its own or later. -/
def suspendedCall (word : Bytes) (call : Expr) : CheckM Unit := do
  let (x, k) ← rawExpr r none call
  let fail (msg : Bytes) : CheckM Unit := do
    report x.pos (word ++ " " ++ msg ++ " " ++ (← showOperand x))
  match k with
  | .conversion => fail "requires function call, not conversion"
  | .expression => fail "discards result of"
  | .statement => return ()

/-- An expression as a statement. -/
def exprStmt (e : Expr) : CheckM Unit := do
  let (x, k) ← rawExpr r none e
  let fail (msg : Bytes) : CheckM Unit := do
    report x.pos ((← showOperand x) ++ " " ++ msg)
  match x.mode with
  | .builtin => fail "must be called"
  | .typeExpr => fail "is not an expression"
  | _ => if k ≠ .statement then fail "is not used"

/-- A return statement. -/
def returnStmt (start : Place) (values : List Expr) : CheckM Unit := do
  let env := (← get).env
  let results := ((env.sig.map Sig.results).getD [])
  let named := match results with
    | p :: _ => !p.name.isEmpty
    | [] => false
  if values.isEmpty && named then
    for i in env.results do
      let v ← getVar i
      let hidden := match localEntry? (← get).env.frames v.name with
        | some (.var j, other) => if i = j then none else some other
        | some (_, other) => some other
        | none => none
      match hidden with
      | some other =>
        reportAll (← problemLoc start)
          ("result parameter " ++ v.name ++ " not in scope at return")
          [(other, "inner declaration of var " ++ v.name ++ " "
            ++ (← showType (v.type.getD .invalid)))]
      | none => pure ()
  else if !values.isEmpty || !results.isEmpty then
    initVars r (results.map fun p => Slot.result p.name p.type) values (some start)

/-- A jump without a label. -/
def branchStmt (ctx : Ctx) (start : Place) (word : Bytes) : CheckM Unit := do
  if word = "break" then
    if !ctx.breakOk then report start "break not in for, switch, or select statement"
  else if word = "continue" then
    if !ctx.continueOk then report start "continue not in for statement"
  else if word = "fallthrough" then
    if !ctx.fallthroughOk then
      if ctx.finalCase then report start "cannot fallthrough final case in switch"
      else if ctx.inTypeSwitch then report start "cannot fallthrough in type switch"
      else report start "fallthrough statement out of place"

/-- **A statement.** -/
def stmtInner (ctx : Ctx) (s : Stmt) : CheckM Unit := do
  let inner : Ctx := { ctx with fallthroughOk := false, finalCase := false, inTypeSwitch := false }
  let simple (s : Option Stmt) : CheckM Unit := match s with
    | some s => (r ()).stmts {} [s]
    | none => return ()
  match s with
  | .bad _ | .empty _ => return ()
  | .decl _ _ specs => for spec in specs do localDecl r spec
  | .labeled _ s =>
    modify fun st => { st with hasLabel := true }
    (r ()).stmts ctx [s]
  | .expr e => exprStmt r e
  | .send c v =>
    let ch ← expr r none c
    let x ← expr r none v
    if ch.ok && x.ok then
      match ← channelElem ch false with
      | some t =>
        let _ ← assign r x (some t) "send"
      | none => pure ()
  | .incDec e p op =>
    let x ← expr r none e
    if x.ok then
      if !(← table).isNumeric x.type then
        report e.pos (invalidOp ++ e.render ++ op ++ " (non-numeric type " ++ (← showType x.type)
          ++ ")")
      else
        let y ← binary r none e (.lit e.pos .int "1") p (op.take 1)
        if y.ok then
          let _ ← assignTo r e (.inl y) "assignment"
  | .assign lhs p op rhs =>
    if op = ":=" then shortVarDecl r lhs p rhs
    else if op = "=" then assignVars r lhs rhs
    else
      match lhs, rhs with
      | [a], [b] =>
        let y ← binary r none a b p op.dropLast
        if y.ok then
          let _ ← assignTo r a (.inl y) "assignment operation"
      | _, _ =>
        report p ("assignment operation " ++ op ++ " requires single-valued expressions")
  | .go _ c => suspendedCall r "go" c
  | .defer _ c => suspendedCall r "defer" c
  | .ret p values => returnStmt r p values
  | .branch p word label =>
    match label with
    | some _ => modify fun st => { st with hasLabel := true }
    | none => branchStmt ctx p word
  | .block b => inScope ((r ()).stmts inner b.stmts)
  | .cond _ init test body other =>
    inScope do
      simple init
      condition r test "if"
      (r ()).stmts inner [.block body]
      match other with
      | some o => (r ()).stmts inner [o]
      | none => return ()
  | .switch p init tag clauses =>
    inScope do
      simple init
      switchStmt r inner p tag clauses
  | .typeSwitch p init lhs guard clauses =>
    inScope do
      simple init
      typeSwitchStmt r inner p lhs guard clauses
  | .select _ clauses => selectStmt r inner clauses
  | .loop _ init test post body =>
    inScope do
      simple init
      match test with
      | some e => condition r e "for"
      | none => pure ()
      simple post
      match post with
      | some (.assign lhs p op _) =>
        if op = ":=" then
          reportSoft ((lhs.head?.map Expr.pos).getD p) "cannot declare in post statement"
          let _ ← use r lhs
      | _ => pure ()
      (r ()).stmts { inner with breakOk := true, continueOk := true } [.block body]
  | .range p key value op x body =>
    rangeStmt r { inner with breakOk := true, continueOk := true } p key value (op = ":=") x body

/-- Statements, one after another, each with the work it puts off. What may follow the
last statement of a clause may only follow the last one. -/
def stmtList (ctx : Ctx) : List Stmt → CheckM Unit
  | [] => return ()
  | s :: rest => do
    let last := rest.all Stmt.isEmpty
    let here := if last then ctx else { ctx with fallthroughOk := false }
    let top := (← get).tasks.size
    stmtInner r here s
    drain r top
    stmtList ctx rest

/-! ## Bodies -/

/-- Checks the labels of a body. -/
def checkLabels (body : Block) : CheckM Unit := do
  for f in body.labelFaults do
    match f with
    | .redeclared n first =>
      reportAll (← problemLoc n.pos) ("label " ++ n.text ++ " already declared")
        [(← locate first.pos, "other declaration of " ++ n.text)]
    | .misplaced word n => report n.pos ("invalid " ++ word ++ " label " ++ n.text)
    | .skipsVariable n decl =>
      let site ← siteOf (← locate decl)
      reportSoft n.pos ("goto " ++ n.text ++ " jumps over variable declaration at line "
        ++ Bytes.ofNat site.line)
    | .entersBlock n => report n.pos ("goto " ++ n.text ++ " jumps into block")
    | .undeclared n => report n.pos ("label " ++ n.text ++ " not declared")
    | .unused n => reportSoft n.pos ("label " ++ n.text ++ " declared and not used")

/-- Reports the variables of a body that are not used. -/
def checkUsage (body : Nat) : CheckM Unit := do
  let s ← get
  let unused := s.vars.toList.filter fun v => v.body = body && v.needsUse && !v.used
  let before (a b : Variable) : Bool :=
    a.scope < b.scope || (a.scope = b.scope && (a.loc.pos.line < b.loc.pos.line ||
      (a.loc.pos.line = b.loc.pos.line && a.loc.pos.column ≤ b.loc.pos.column)))
  for v in unused.mergeSort before do
    reportAll v.loc ("declared and not used: " ++ v.name) [] true

/-- **The body of a function.** -/
def funcBody (env : Env) (sig : Sig) (types : List (Name × Ty)) (bound : List Bound)
    (block : Block) : CheckM Unit := do
  let s ← get
  let body := s.counter
  set { s with counter := s.counter + 1, hasLabel := false }
  let panics ← inEnv env do
    match ← lookupName "panic" with
    | some (.builtin _) => return true
    | _ => return false
  inEnv { env with body := body, sig := some sig } do
    inScope do
      for (n, t) in types do
        if n.text ≠ "_" then declareQuietly n.text n.pos (.type t)
      let mut named : List Nat := []
      for b in bound do
        let n := b.name
        let i ← newVar n.text n.pos (some b.type) b.kind
        if n.text ≠ "_" then
          declareQuietly n.text n.pos (.var i)
          if b.kind = .result then named := named ++ [i]
      let found := named
      modify fun s => { s with env := { s.env with results := found } }
      (r ()).stmts {} block.stmts
      if (← get).hasLabel then checkLabels block
      if !sig.results.isEmpty && !block.terminates panics then
        report block.rbrace "missing return"
      checkUsage body
  modify fun st => { st with hasLabel := s.hasLabel }

/-- **Work that was put off.** -/
def doTask (t : Task) : CheckM Unit := do
  match t with
  | .body env sig types bound block => funcBody r env sig types bound block
  | .members i => checkMembers i
  | .containment i => checkContainment i
  | .localContainment id loc => checkLocalContainment id loc
  | .interface methods embedded => checkInterface methods embedded
  | .overlap loc other a b =>
    if !Sig.same true a.sig b.sig then duplicateMethod loc other a.name
  | .mapKey loc key =>
    let w ← table
    if !(w.under key).isInvalid && !w.isComparable key then
      let why : Bytes := if key.isParam then " (missing comparable constraint)" else []
      reportAt loc ("invalid map key type " ++ (← showType key) ++ why)
  | .receiver loc t => checkReceiver loc t
  | .embedded loc t => checkEmbedded loc t
  | .varType loc t => checkVarType loc t
  | .union terms => checkUnion terms
  | .instance_ loc id args => checkInstance r loc id args
  | .arguments loc params args written => checkArguments r loc params args written

end

/-- **The rules of checking**, to a depth of `n` nested parts. -/
def rules : Nat → Rules
  | 0 => .none
  | n + 1 =>
    let r : Unit → Rules := fun _ => rules n
    { expr := exprAny r
      type := typeExpr r
      object := objectDecl r
      stmts := stmtList r
      task := doTask r }

end Stencil.Host.Check
