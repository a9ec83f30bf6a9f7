import Stencil.Host.Scanner
import Stencil.Host.Tree

/-!
# From tokens to trees

`parseFile` reads a file. What does not fit the grammar is complained about, and reading
goes on: a missing token is taken as if it were there, and behind something that cannot
be understood at all everything up to the next place where a statement, a declaration or
the end of an expression can be recognised is skipped.

The grammar is recursive: expressions contain types, types contain expressions, and
function literals contain statements. The functions here take the recursive parts as a
`Rules` record, and `rules` ties the knot: the rules of one level use those of the level
below, and a file is read with more levels than it has tokens.
-/

namespace Stencil.Host.Grammar

open Bytes

/-- The state of reading. -/
structure State where
  /-- The tokens ahead; the last one is the end of the file. -/
  tokens : List Token
  /-- The complaints so far, latest first. -/
  complaints : List Complaint := []
  /-- How deep in parentheses an expression is; negative in the head of a statement,
  where a brace starts a block. -/
  level : Int := 0
  /-- Whether an equals sign is a mistaken comparison here. -/
  inValue : Bool := false
  /-- Where reading was last resumed. -/
  syncOffset : Nat := 0
  /-- How often it was resumed there. -/
  syncCount : Nat := 0

/-- A reader of a part of a file. -/
abbrev Reader (α : Type) := StateM State α

/-! ## Tokens -/

/-- The token ahead. -/
def peek : Reader Token := do
  return ((← get).tokens.head?).getD ⟨.eof, [], {}⟩

/-- The kind of the token ahead. -/
def kind : Reader Tok := do return (← peek).kind

/-- Where the token ahead starts. -/
def here : Reader Place := do return (← peek).pos

/-- Goes on to the next token. The end of the file stays. -/
def next : Reader Unit :=
  modify fun s => match s.tokens with
    | _ :: u :: r => { s with tokens := u :: r }
    | _ => s

/-- Complains about a place. -/
def complain (pos : Place) (msg : Bytes) : Reader Unit :=
  modify fun s => { s with complaints := ⟨pos, msg⟩ :: s.complaints }

/-- The token ahead as complaints name it. -/
def foundText (t : Token) : Bytes :=
  if t.kind = .semicolon && t.lit = [newline] then "newline"
  else if t.kind.isLiteral then t.lit
  else [squote] ++ t.kind.text ++ [squote]

/-- Complains that something was expected at a place. What is there instead is named when
the place is the token ahead. -/
def complainExpected (pos : Place) (what : Bytes) : Reader Unit := do
  let t ← peek
  let found : Bytes := if t.pos = pos then ", found " ++ foundText t else []
  complain pos ("expected " ++ what ++ found)

/-- A kind between apostrophes. -/
def quotedKind (k : Tok) : Bytes := [squote] ++ k.text ++ [squote]

/-- Takes a token of a kind, or complains and takes whatever is there. -/
def expect (k : Tok) : Reader Place := do
  let t ← peek
  if t.kind ≠ k then complainExpected t.pos (quotedKind k)
  next
  return t.pos

/-- Takes a closing token. A line that ends too early is complained about by name. -/
def expectClosing (k : Tok) (context : Bytes) : Reader Place := do
  let t ← peek
  if t.kind ≠ k && t.kind = .semicolon && t.lit = [newline] then
    complain t.pos ("missing ',' before newline in " ++ context)
    next
  expect k

/-- Skips tokens up to one of the given kinds. At a place where reading was resumed ten
times already, one token more is skipped. -/
def advance (stop : Tok → Bool) : Reader Unit := do
  let s ← get
  go stop s.tokens.length
where
  /-- Skips at most `n` tokens. -/
  go (stop : Tok → Bool) : Nat → Reader Unit
    | 0 => pure ()
    | n + 1 => do
      let t ← peek
      if t.kind = .eof then return
      if stop t.kind then
        let s ← get
        if t.pos.offset = s.syncOffset && s.syncCount < 10 then
          set { s with syncCount := s.syncCount + 1 }
          return
        if t.pos.offset > s.syncOffset then
          set { s with syncOffset := t.pos.offset, syncCount := 0 }
          return
      next
      go stop n

/-- Where a statement can start. -/
def startsStatement : Tok → Bool
  | .word w => (["break", "const", "continue", "defer", "fallthrough", "for", "go", "goto", "if",
      "return", "select", "switch", "type", "var"] : List String).any fun k => Bytes.ofString k = w
  | _ => false

/-- Where a declaration can start. -/
def startsDeclaration : Tok → Bool
  | .word w => w = "import" || w = "const" || w = "type" || w = "var"
  | _ => false

/-- Where an expression can end. -/
def endsExpression : Tok → Bool
  | .op o => o = "," || o = ":" || o = ";" || o = ")" || o = "]" || o = [rbrace]
  | _ => false

/-- The end of a statement, which a closing bracket can imply. -/
def expectSemi : Reader Unit := do
  let t ← peek
  if t.kind = .sym ")" || t.kind = .rbrace then return
  if t.kind = .sym "," then
    complainExpected t.pos "';'"
    next
  else if t.kind = .semicolon then next
  else
    complainExpected t.pos "';'"
    advance startsStatement

/-- Whether a list goes on: a comma is ahead, or is missing where the list does not end. -/
def atComma (context : Bytes) (follow : Tok) : Reader Bool := do
  let t ← peek
  if t.kind = .sym "," then return true
  if t.kind ≠ follow then
    let line : Bytes :=
      if t.kind = .semicolon && t.lit = [newline] then " before newline" else []
    complain t.pos ("missing ','" ++ line ++ " in " ++ context)
    return true
  return false

/-- Runs a reader with the depth changed. -/
def atLevel (f : Int → Int) (p : Reader α) : Reader α := do
  let old := (← get).level
  modify fun s => { s with level := f old }
  let a ← p
  modify fun s => { s with level := old }
  return a

/-- Runs a reader one level deeper. -/
def deeper (p : Reader α) : Reader α := atLevel (· + 1) p

/-- Runs a reader where an equals sign is, or is not, a mistaken comparison. -/
def asValue (b : Bool) (p : Reader α) : Reader α := do
  let old := (← get).inValue
  modify fun s => { s with inValue := b }
  let a ← p
  modify fun s => { s with inValue := old }
  return a

/-- Repeats a reader at most as often as there are tokens, as long as it says so. -/
def collect (p : Reader (List α × Bool)) : Reader (List α) := do
  let n := (← get).tokens.length
  let out ← go p [] (n + 1)
  return out.reverse.flatten
where
  /-- Repeats at most `n` times. -/
  go (p : Reader (List α × Bool)) (acc : List (List α)) : Nat → Reader (List (List α))
    | 0 => pure acc
    | n + 1 => do
      let (xs, more) ← p
      if more then go p (xs :: acc) n else return xs :: acc

/-! ## The recursive parts -/

/-- How deep a statement is allowed to go: whether a range clause or a label may stand. -/
inductive SimpleMode where
  /-- Neither. -/
  | basic
  /-- A label. -/
  | labelOk
  /-- A range clause. -/
  | rangeOk
  deriving DecidableEq

/-- **The recursive parts of the grammar.** -/
structure Rules where
  /-- An expression that binds at least as tightly as given. -/
  binary : Nat → Reader Expr
  /-- An expression with the operators in front of it. -/
  unary : Reader Expr
  /-- A type, if there is one. -/
  type? : Reader (Option Expr)
  /-- Statements up to the end of a block or clause. -/
  stmts : Reader (List Stmt)
  /-- One statement. -/
  stmt : Reader Stmt
  /-- An element of a composite literal between braces. -/
  literal : Option Expr → Reader Expr

/-- The rules of no level: they read nothing. -/
def Rules.none : Rules where
  binary _ := return .bad (← here)
  unary := return .bad (← here)
  type? := return Option.none
  stmts := return []
  stmt := do
    let p ← here
    next
    return .bad p
  literal _ := return .bad (← here)

section

variable (r : Unit → Rules)

/-! ## Names and types -/

/-- A name. -/
def ident : Reader Name := do
  let t ← peek
  if t.kind = .ident then
    next
    return ⟨t.pos, t.lit⟩
  else
    let _ ← expect .ident
    return ⟨t.pos, "_"⟩

/-- An expression. -/
def expr : Reader Expr := (r ()).binary 1

/-- An expression on the right of something. -/
def value : Reader Expr := asValue true (expr r)

/-- Expressions separated by commas. -/
def exprList : Reader (List Expr) := do
  let first ← expr r
  let rest ← collect do
    if (← kind) = .sym "," then
      next
      return ([← expr r], true)
    else return ([], false)
  return first :: rest

/-- Expressions separated by commas, on the right of something or not. -/
def list (onRight : Bool) : Reader (List Expr) := asValue onRight (exprList r)

/-- A type, complaining if there is none. -/
def type : Reader Expr := do
  match ← (r ()).type? with
  | some t => return t
  | none =>
    let p ← here
    complainExpected p "type"
    advance endsExpression
    return .bad p

/-- A name that may be qualified by a package. -/
def typeName (name : Option Name) : Reader Expr := do
  let n ← match name with
    | some n => pure n
    | none => ident
  if (← kind) = .sym "." then
    next
    let sel ← ident
    return .selector (.ident n) sel
  return .ident n

/-- The arguments of a type, between brackets. -/
def typeArgs (x : Expr) : Reader Expr := do
  let _ ← expect (.sym "[")
  let args ← deeper <| collect do
    if (← kind) = .sym "]" || (← kind) = .eof then return ([], false)
    let t ← type r
    if ← atComma "type argument list" (.sym "]") then
      next
      return ([t], true)
    return ([t], false)
  let closing ← expectClosing (.sym "]") "type argument list"
  if args.isEmpty then
    complainExpected closing "type argument list"
    return .index x [.bad closing]
  return .index x args

/-- A name that may be qualified by a package, with type arguments if there are any. -/
def typeInstance (name : Option Name) : Reader Expr := do
  let x ← typeName name
  if (← kind) = .sym "[" then typeArgs r x else return x

/-- An array or slice type from behind its bracket, or from behind its length. -/
def arrayType (start : Place) (known : Option Expr) : Reader Expr := do
  let len ← if known.isSome then pure known else deeper do
    let t ← peek
    if t.kind = .sym "..." then
      next
      return some (Expr.ellipsis t.pos none)
    else if t.kind ≠ .sym "]" then
      return some (← value r)
    else return none
  let t ← peek
  if t.kind = .sym "," then
    complain t.pos "unexpected comma; expecting ]"
    next
  let _ ← expect (.sym "]")
  let elem ← type r
  return .arrayType start len elem

/-- What follows a field's name and a bracket: an array type, or, if the name is a type
itself, its arguments. -/
def arrayField (name : Name) : Reader (Option Name × Expr) := do
  let start ← expect (.sym "[")
  if (← kind) = .sym "]" then
    next
    return (some name, .arrayType start none (← type r))
  let found ← deeper <| collect do
    let x ← value r
    let t ← peek
    if t.kind = .sym "," then
      next
      let more := decide ((← kind) ≠ .sym "]")
      return ([(x, if more then none else some t.pos)], more)
    return ([(x, none)], false)
  let _ ← expect (.sym "]")
  let args := found.map Prod.fst
  match args with
  | [len] =>
    match ← (r ()).type? with
    | some elem =>
      match found.findSome? Prod.snd with
      | some comma => complain comma "unexpected comma; expecting ]"
      | none => pure ()
      return (some name, .arrayType start (some len) elem)
    | none => return (none, .index (.ident name) args)
  | _ => return (none, .index (.ident name) args)

/-- One field of a structure, or an embedded type. -/
def field : Reader Field := do
  let t ← peek
  let (names, typ) ← do
    if t.kind = .ident then
      let name ← ident
      let k ← kind
      if k = .sym "." || k = .string || k = .semicolon || k = .rbrace then
        let typ ← if k = .sym "." then typeInstance r (some name) else pure (Expr.ident name)
        pure ([], typ)
      else
        let more ← collect do
          if (← kind) = .sym "," then
            next
            return ([← ident], true)
          else return ([], false)
        if more.isEmpty && (← kind) = .sym "[" then
          let (n, typ) ← arrayField r name
          pure (n.toList, typ)
        else
          let typ ← type r
          pure (name :: more, typ)
    else if t.kind = .sym "*" then
      next
      let open_ ← peek
      if open_.kind = .sym "(" then
        complain open_.pos "cannot parenthesize embedded type"
        next
        let x ← typeInstance r none
        if (← kind) = .sym ")" then next
        pure ([], Expr.star t.pos x)
      else
        let x ← typeInstance r none
        pure ([], Expr.star t.pos x)
    else if t.kind = .sym "(" then
      complain t.pos "cannot parenthesize embedded type"
      next
      let star ← peek
      let x ← if star.kind = .sym "*" then do
          next
          pure (Expr.star star.pos (← typeInstance r none))
        else typeInstance r none
      if (← kind) = .sym ")" then next
      pure ([], x)
    else
      complainExpected t.pos "field name or embedded type"
      advance endsExpression
      pure ([], Expr.bad t.pos)
  let tag ← do
    let t ← peek
    if t.kind = .string then
      next
      pure (some t.lit)
    else pure none
  expectSemi
  return .mk names typ tag

/-- A structure type. -/
def structType : Reader Expr := do
  let start ← expect (.kw "struct")
  let _ ← expect .lbrace
  let fields ← collect do
    let k ← kind
    if k = .ident || k = .sym "*" || k = .sym "(" then return ([← field r], true)
    return ([], false)
  let _ ← expect .rbrace
  return .structType start fields

/-- A parameter as far as it can be told apart: a name, a type, or both. -/
structure Param where
  /-- The name, or a type that is a mere name. -/
  name : Option Name
  /-- The type. -/
  type : Option Expr
  deriving Inhabited

/-- The type of further arguments. -/
def dotsType : Reader Expr := do
  let start ← expect (.sym "...")
  let elem ← type r
  return .ellipsis start (some elem)

/-- One alternative of a type set: a type, or all types of an underlying type. -/
def alternative : Reader Expr := do
  let t ← peek
  if t.kind = .sym "~" then
    next
    return .unary t.pos "~" (← type r)
  match ← (r ()).type? with
  | some x => return x
  | none =>
    complainExpected t.pos "~ term or type"
    advance endsExpression
    return .bad t.pos

/-- The alternatives of a type set, of which the first may be known. -/
def alternatives (first : Option Expr) : Reader Expr := do
  let x ← match first with
    | some x => pure x
    | none => alternative r
  let more ← collect do
    let t ← peek
    if t.kind = .sym "|" then
      next
      return ([(t.pos, ← alternative r)], true)
    else return ([], false)
  return more.foldl (fun x (pos, y) => .binary x pos "|" y) x

/-- One parameter, of which the name may be known. A type parameter may have a type set for
its type. -/
def param (name : Option Name) (typeSets : Bool) : Reader Param := do
  let t ← peek
  let further (p : Param) : Reader Param := do
    match p.type with
    | some x =>
      if typeSets && (← kind) = .sym "|" then
        return { p with type := some (← alternatives r (some x)) }
      return p
    | none => return p
  if name.isSome || t.kind = .ident then
    let name ← match name with
      | some n => pure n
      | none => ident
    let k ← kind
    if k = .sym "[" then
      let (n, typ) ← arrayField r name
      further ⟨n, some typ⟩
    else if k = .sym "..." then return ⟨some name, some (← dotsType r)⟩
    else if k = .sym "." then further ⟨none, some (← typeInstance r (some name))⟩
    else if k = .sym "~" then
      if typeSets then return ⟨some name, some (← alternatives r none)⟩
      return ⟨some name, none⟩
    else if k = .sym "|" then
      if typeSets then return ⟨none, some (← alternatives r (some (.ident name)))⟩
      return ⟨some name, none⟩
    else further ⟨some name, ← (r ()).type?⟩
  else if typeSets && t.kind = .sym "~" then return ⟨none, some (← alternatives r none)⟩
  else if t.kind = .sym "..." then return ⟨none, some (← dotsType r)⟩
  else
    match ← (r ()).type? with
    | some typ => further ⟨none, some typ⟩
    | none =>
      complainExpected (← here) "')'"
      advance endsExpression
      return ⟨none, none⟩

/-- The parameters in groups of one type: a parameter that has a name only belongs to the
group of the next one that has a type. With them goes the leftmost place where a name or
a type is missing. -/
def spreadTypes : List Param → List (List Name × Expr) × Option Place
  | [] => ([], none)
  | p :: ps =>
    let (rest, bad) := spreadTypes ps
    match p.type, p.name with
    | some t, some n => (([n], t) :: rest, bad)
    | some t, none => (([⟨t.pos, "_"⟩], t) :: rest, some t.pos)
    | none, some n =>
      match rest with
      | (ns, t) :: more =>
        match t with
        | .bad _ => (([n], .bad n.pos) :: rest, some n.pos)
        | t => ((n :: ns, t) :: more, bad)
      | [] => ([([n], .bad n.pos)], some n.pos)
    | none, none => (rest, bad)

/-- What is wrong with a list in which not everything has a name and a type. `bad` is the
leftmost place where something is missing. -/
def complainMissing (typeSets : Bool) (count named typed : Nat) (bad : Place) : Reader Unit := do
  if named = typed then
    complain (← here) (if typeSets then "missing type constraint" else "missing parameter type")
  else if typeSets then
    let hint : Bytes := if count = 1 then " or invalid array length" else []
    complain bad ("missing type parameter name" ++ hint)
  else complain bad "missing parameter name"

/-- Parameters up to a closing token, which for type parameters is a bracket. The first
name, and with it the first type, may be known. -/
def paramList (first : Option Name) (firstType : Option Expr) (typeSets : Bool) :
    Reader (List Field) := do
  let closing : Tok := if typeSets then .sym "]" else .sym ")"
  let start := (first.map Name.pos).getD (← here)
  let continues (p : Param) : Reader (List Param × Bool) := do
    let kept := if p.name.isSome || p.type.isSome then [p] else []
    if ← atComma "parameter list" closing then
      next
      return (kept, true)
    return (kept, false)
  let (head, more) ← match first with
    | none => pure ([], true)
    | some n =>
      let p ← match firstType with
        | some t => do
          let t ← if typeSets then alternatives r (some t) else pure t
          pure ⟨some n, some t⟩
        | none => param r (some n) typeSets
      continues p
  let rest ← if !more then pure [] else collect do
    let k ← kind
    if k = closing || k = .eof then return ([], false)
    continues (← param r none typeSets)
  let ps := head ++ rest
  let named := ps.countP fun p => p.name.isSome && p.type.isSome
  let typed := ps.countP fun p => p.type.isSome
  if named = 0 then
    if typeSets && !ps.isEmpty then complainMissing true ps.length named typed start
    return ps.map fun p =>
      match p.name, p.type with
      | some n, none => .mk [] (.ident n) none
      | _, some t => .mk [] t none
      | none, none => .mk [] (.bad {}) none
  else
    let (fields, bad) := spreadTypes ps
    if named ≠ ps.length then
      match bad with
      | some pos => complainMissing typeSets ps.length named typed pos
      | none => pure ()
    return fields.map fun (ns, t) => .mk ns t none

/-- Complains about dots in front of a type: only the last of several parameters can take
further arguments, and nothing else can. -/
def checkDots (mayVary : Bool) : List Field → Reader Unit
  | [] => return ()
  | f :: rest => do
    match f.type with
    | .ellipsis p _ =>
      if !mayVary then complain p "invalid use of ..."
      else if !rest.isEmpty || 1 < f.names.length then
        complain p "can only use ... with final parameter"
    | _ => pure ()
    checkDots mayVary rest

/-- Parameters between parentheses, of which the last may take further arguments or not. -/
def params (mayVary : Bool) : Reader (List Field) := do
  let _ ← expect (.sym "(")
  let fields ← if (← kind) = .sym ")" then pure [] else paramList r none none false
  checkDots mayVary fields
  let _ ← expect (.sym ")")
  return fields

/-- Type parameters between brackets, if there are any, and where they start. -/
def typeParams : Reader (Option (Place × List Field)) := do
  if (← kind) ≠ .sym "[" then return none
  let start ← expect (.sym "[")
  let fields ← if (← kind) = .sym "]" then pure [] else paramList r none none true
  let closing ← expect (.sym "]")
  if fields.isEmpty then
    complain closing "empty type parameter list"
    return none
  return some (start, fields)

/-- Type parameters where there must be none. -/
def noTypeParams (what : Bytes) : Reader Unit := do
  match ← typeParams r with
  | some (start, _) => complain start (what ++ " must have no type parameters")
  | none => return ()

/-- The results of a function: a list, one type, or nothing. -/
def results : Reader (List Field × Bool) := do
  if (← kind) = .sym "(" then return (← params r false, true)
  match ← (r ()).type? with
  | some t => return ([.mk [] t none], true)
  | none => return ([], false)

/-- Parameters and results. -/
def signature : Reader FuncType := do
  let ps ← params r true
  let (rs, has) ← results r
  return .mk ps rs has

/-- The rest of a list of type arguments from behind the first one. -/
def furtherTypeArgs (x first : Expr) : Reader Expr := do
  let more ← if ← atComma "type argument list" (.sym "]") then
      deeper do
        next
        collect do
          if (← kind) = .sym "]" || (← kind) = .eof then return ([], false)
          let t ← type r
          if ← atComma "type argument list" (.sym "]") then
            next
            return ([t], true)
          return ([t], false)
    else pure []
  let _ ← expectClosing (.sym "]") "type argument list"
  return .index x (first :: more)

/-- One member of an interface. -/
def member : Reader Field := do
  let method (name : Name) : Reader Field := do
    return .mk [name] (.funcType name.pos (← signature r)) none
  let name ← ident
  let k ← kind
  if k = .sym "(" then method name
  else if k = .sym "[" then
    let start ← expect (.sym "[")
    let x ← deeper (expr r)
    let k ← kind
    match x with
    | .ident n =>
      if k ≠ .sym "," && k ≠ .sym "]" then
        let _ ← paramList r (some n) none true
        let _ ← expect (.sym "]")
        complain start "interface method must have no type parameters"
        method name
      else return .mk [] (← furtherTypeArgs r (.ident name) x) none
    | _ => return .mk [] (← furtherTypeArgs r (.ident name) x) none
  else return .mk [] (← typeInstance r (some name)) none

/-- An interface type. -/
def interfaceType : Reader Expr := do
  let start ← expect (.kw "interface")
  let _ ← expect .lbrace
  let members ← collect do
    let t ← peek
    if t.kind = .ident then
      let m ← member r
      let m ← if m.names.isEmpty then do
          pure (Field.mk [] (← alternatives r (some m.type)) none)
        else pure m
      expectSemi
      return ([m], true)
    else if t.kind = .sym "~" then
      let x ← alternatives r none
      expectSemi
      return ([Field.mk [] x none], true)
    else
      match ← (r ()).type? with
      | some x =>
        let x ← alternatives r (some x)
        expectSemi
        return ([Field.mk [] x none], true)
      | none => return ([], false)
  let _ ← expect .rbrace
  return .interfaceType start members

/-- A map type. -/
def mapType : Reader Expr := do
  let start ← expect (.kw "map")
  let _ ← expect (.sym "[")
  let key ← type r
  let _ ← expect (.sym "]")
  let value ← type r
  return .mapType start key value

/-- A channel type. -/
def chanType : Reader Expr := do
  let t ← peek
  if t.kind = .kw "chan" then
    next
    let dir ← if (← kind) = .sym "<-" then do
        next
        pure Direction.send
      else pure .both
    return .chanType t.pos dir (← type r)
  else
    let _ ← expect (.sym "<-")
    let _ ← expect (.kw "chan")
    return .chanType t.pos .receive (← type r)

/-- A function type. -/
def funcType : Reader (Place × FuncType) := do
  let start ← expect (.kw "func")
  noTypeParams r "function type"
  return (start, ← signature r)

/-- A type, if there is one. -/
def tryType : Reader (Option Expr) := do
  let t ← peek
  match t.kind with
  | .ident =>
    return some (← typeInstance r none)
  | .op o =>
    if o = "[" then
      next
      return some (← arrayType r t.pos none)
    else if o = "*" then
      next
      return some (.star t.pos (← type r))
    else if o = "<-" then return some (← chanType r)
    else if o = "(" then
      next
      let x ← type r
      let _ ← expect (.sym ")")
      return some (.paren t.pos x)
    else return none
  | .word w =>
    if w = "struct" then return some (← structType r)
    else if w = "func" then
      let (start, ft) ← funcType r
      return some (.funcType start ft)
    else if w = "interface" then return some (← interfaceType r)
    else if w = "map" then return some (← mapType r)
    else if w = "chan" then return some (← chanType r)
    else return none
  | _ => return none

/-! ## Expressions -/

/-- Statements between braces. -/
def block : Reader Block := do
  let l ← expect .lbrace
  let ss ← (r ()).stmts
  let rb ← expect .rbrace
  return .mk l ss rb

/-- An operand. -/
def operand : Reader Expr := do
  let t ← peek
  match t.kind with
  | .ident => return .ident (← ident)
  | .int | .float | .imag | .char | .string =>
    next
    return .lit t.pos t.kind t.lit
  | k =>
    if k = .sym "(" then
      next
      let x ← deeper (value r)
      let _ ← expect (.sym ")")
      return .paren t.pos x
    else if k = .kw "func" then
      let (start, ft) ← funcType r
      if (← kind) = .lbrace then
        let body ← deeper (block r)
        return .funcLit start ft body
      return .funcType start ft
    else
      match ← tryType r with
      | some x => return x
      | none =>
        complainExpected t.pos "operand"
        advance startsStatement
        return .bad t.pos

/-- An index or a slice. -/
def index (x : Expr) : Reader Expr := do
  let _ ← expect (.sym "[")
  let t ← peek
  if t.kind = .sym "]" then
    complainExpected t.pos "operand"
    next
    return .index x [.bad t.pos]
  let bound : Reader (Option Expr) := do
    let k ← kind
    if k = .sym ":" || k = .sym "]" || k = .eof then return none
    return some (← value r)
  let (made, colons) ← deeper do
    let first ← if t.kind = .sym ":" then pure none else do pure (some (← value r))
    let c₁ ← peek
    if c₁.kind = .sym ":" then
      next
      let second ← bound
      let c₂ ← peek
      if c₂.kind = .sym ":" then
        next
        let third ← bound
        pure (Expr.slice x first second third true, [c₁.pos, c₂.pos])
      else pure (Expr.slice x first second none false, [c₁.pos])
    else if c₁.kind = .sym "," then
      let more ← collect do
        if (← kind) = .sym "," then
          next
          if (← kind) = .sym "]" || (← kind) = .eof then return ([], true)
          return ([← type r], true)
        else return ([], false)
      pure (Expr.index x (first.toList ++ more), [])
    else pure (Expr.index x first.toList, [])
  let _ ← expect (.sym "]")
  match made, colons with
  | .slice x lo hi mx true, [p₁, p₂] =>
    if hi.isNone then complain p₁ "middle index required in 3-index slice"
    if mx.isNone then complain p₂ "final index required in 3-index slice"
    return .slice x lo (some (hi.getD (.bad p₁))) (some (mx.getD (.bad p₂))) true
  | made, _ => return made

/-- The arguments of a call. -/
def call (fn : Expr) : Reader Expr := do
  let _ ← expect (.sym "(")
  let args ← deeper <| collect do
    let k ← kind
    if k = .sym ")" || k = .eof then return ([], false)
    let x ← value r
    let spread := decide ((← kind) = .sym "...")
    if spread then next
    if ← atComma "argument list" (.sym ")") then
      next
      return ([(x, spread)], !spread)
    return ([(x, spread)], false)
  let rparen ← expectClosing (.sym ")") "argument list"
  return .call fn (args.map Prod.fst) (args.any Prod.snd) rparen

/-- A type assertion. -/
def assertion (x : Expr) : Reader Expr := do
  let _ ← expect (.sym "(")
  let typ ← if (← kind) = .kw "type" then do
      next
      pure none
    else do pure (some (← type r))
  let _ ← expect (.sym ")")
  return .assertion x typ

/-- An element or key of a composite literal. -/
def elementValue : Reader Expr := do
  if (← kind) = .lbrace then (r ()).literal none else expr r

/-- The braces of a composite literal. -/
def literalValue (typ : Option Expr) : Reader Expr := do
  let l ← expect .lbrace
  let elements ← deeper <| collect do
    let k ← kind
    if k = .rbrace || k = .eof then return ([], false)
    let x ← elementValue r
    let x ← if (← kind) = .sym ":" then do
        next
        pure (Expr.keyValue x (← elementValue r))
      else pure x
    if ← atComma "composite literal" .rbrace then
      next
      return ([x], true)
    return ([x], false)
  let rb ← expectClosing .rbrace "composite literal"
  return .composite typ l elements rb

/-- Whether a brace behind an expression makes it a composite literal. -/
def takesBrace (level : Int) : Expr → Bool
  | .bad _ | .ident _ | .selector .. | .index .. => 0 ≤ level
  | .arrayType .. | .structType .. | .mapType .. => true
  | _ => false

/-- An operand with all that follows it, `n` parts at most. -/
def primaryTail : Nat → Expr → Reader Expr
  | 0, x => pure x
  | n + 1, x => do
    let t ← peek
    match t.kind with
    | .op o =>
      if o = "." then
        next
        let u ← peek
        if u.kind = .ident then primaryTail n (.selector x (← ident))
        else if u.kind = .sym "(" then primaryTail n (← assertion r x)
        else
          complainExpected u.pos "selector or type assertion"
          if u.kind ≠ .rbrace then next
          primaryTail n (.selector x ⟨u.pos, "_"⟩)
      else if o = "[" then primaryTail n (← index r x)
      else if o = "(" then primaryTail n (← call r x)
      else if o = [lbrace] && takesBrace (← get).level x.unparen then
        match x with
        | .paren _ _ => complain x.unparen.pos "cannot parenthesize type in composite literal"
        | _ => pure ()
        primaryTail n (← literalValue r (some x))
      else return x
    | _ => return x

/-- An operand with all that follows it. -/
def primary : Reader Expr := do
  let n := (← get).tokens.length
  primaryTail r (n + 1) (← operand r)

/-- An operand with the operators in front of it. -/
def unary : Reader Expr := do
  let t ← peek
  match t.kind with
  | .op o =>
    if o = "+" || o = "-" || o = "!" || o = "^" || o = "&" || o = "~" then
      next
      return .unary t.pos o (← (r ()).unary)
    else if o = "<-" then
      next
      match ← (r ()).unary with
      | .chanType _ .both elem => return .chanType t.pos .receive elem
      | x => return .unary t.pos o x
    else if o = "*" then
      next
      return .star t.pos (← (r ()).unary)
    else primary r
  | _ => primary r

/-- The operators behind an operand that bind at least as tightly as given. -/
def binaryTail (prec : Nat) : Nat → Expr → Reader Expr
  | 0, x => pure x
  | n + 1, x => do
    let t ← peek
    let op := if (← get).inValue && t.kind = .sym "=" then .sym "==" else t.kind
    if op.precedence < prec || op.precedence = 0 then return x
    let pos ← expect op
    let y ← (r ()).binary (op.precedence + 1)
    binaryTail prec n (.binary x pos op.text y)

/-- An expression that binds at least as tightly as given. -/
def binary (prec : Nat) : Reader Expr := do
  let n := (← get).tokens.length
  binaryTail r prec (n + 1) (← unary r)

/-! ## Statements -/

/-- The operators of assignments. -/
def isAssignment : Tok → Bool
  | .op o => (["=", ":=", "+=", "-=", "*=", "/=", "%=", "&=", "|=", "^=", "<<=", ">>=",
      "&^="] : List String).any fun k => Bytes.ofString k = o
  | _ => false

/-- A simple statement, and whether it is a range clause. -/
def simple (mode : SimpleMode) : Reader (Stmt × Bool) := do
  let xs ← list r false
  let x := xs.headD default
  let t ← peek
  if isAssignment t.kind then
    next
    let u ← peek
    let ranging := mode = .rangeOk && u.kind = .kw "range"
      && (t.kind = .sym ":=" || t.kind = .sym "=")
    if ranging then
      next
      let y ← value r
      return (.assign xs t.pos t.kind.text [y], true)
    let ys ← list r true
    return (.assign xs t.pos t.kind.text ys, false)
  if 1 < xs.length then complainExpected x.pos "1 expression"
  if t.kind = .sym ":" then
    next
    match x with
    | .ident name =>
      if mode = .labelOk then return (.labeled name (← (r ()).stmt), false)
      complain t.pos "illegal label declaration"
      return (.bad x.pos, false)
    | _ =>
      complain t.pos "illegal label declaration"
      return (.bad x.pos, false)
  else if t.kind = .sym "<-" then
    next
    return (.send x (← value r), false)
  else if t.kind = .sym "++" || t.kind = .sym "--" then
    next
    return (.incDec x t.pos t.kind.text, false)
  else return (.expr x, false)

/-- The expression of a statement that has to be one. -/
def asExpr (want : Bytes) : Stmt → Reader Expr
  | .expr x => pure x
  | s => do
    let found : Bytes := match s with
      | .assign .. => "assignment"
      | _ => "simple statement"
    complain s.pos ("expected " ++ want ++ ", found " ++ found
      ++ " (missing parentheses around composite literal?)")
    return .bad s.pos

/-- The call of a statement that has to be one. -/
def callOf (what : Bytes) : Reader (Option Expr) := do
  let x ← value r
  let t := x.unparen
  match x with
  | .paren p _ => complain p ("expression in " ++ what ++ " must not be parenthesized")
  | _ => pure ()
  match t with
  | .call .. => return some t
  | .bad _ => return none
  | _ =>
    complain (← here) ("expression in " ++ what ++ " must be function call")
    return none

/-- The head of a conditional: a statement before it, and the condition. -/
def condHead : Reader (Option Stmt × Expr) := do
  let t ← peek
  if t.kind = .lbrace then
    complain t.pos "missing condition in if statement"
    return (none, .bad t.pos)
  atLevel (fun _ => -1) do
    let init ← if t.kind = .semicolon then pure none else do
      if t.kind = .kw "var" then
        next
        complain (← here) "var declaration not allowed in if initializer"
      pure (some (← simple r .basic).1)
    let u ← peek
    if u.kind = .lbrace then
      match init with
      | some s => return (none, ← asExpr "boolean expression" s)
      | none => return (none, .bad u.pos)
    let semi ← if u.kind = .semicolon then do
        next
        pure (some u)
      else do
        let _ ← expect .semicolon
        pure none
    let v ← peek
    if v.kind ≠ .lbrace then
      let (s, _) ← simple r .basic
      return (init, ← asExpr "boolean expression" s)
    match semi with
    | some u =>
      if u.lit = [newline] then complain u.pos "unexpected newline, expecting \x7b after if clause"
      else complain u.pos "missing condition in if statement"
    | none => pure ()
    return (init, .bad v.pos)

/-- A conditional. The rest of a chain is read as a statement. -/
def cond : Reader Stmt := do
  let start ← expect (.kw "if")
  let (init, test) ← condHead r
  let body ← block r
  if (← kind) = .kw "else" then
    next
    let t ← peek
    if t.kind = .kw "if" then return .cond start init test body (some (← (r ()).stmt))
    else if t.kind = .lbrace then
      let b ← block r
      expectSemi
      return .cond start init test body (some (.block b))
    else
      complainExpected t.pos "if statement or block"
      return .cond start init test body (some (.bad t.pos))
  else
    expectSemi
    return .cond start init test body none

/-- One clause of a choice by value or type. -/
def caseClause : Reader Clause := do
  let t ← peek
  let values ← if t.kind = .kw "case" then do
      next
      pure (some (← list r true))
    else do
      let _ ← expect (.kw "default")
      pure none
  let _ ← expect (.sym ":")
  return .case t.pos values (← (r ()).stmts)

/-- The guard of a choice by type. -/
def guard? : Stmt → Option (Option Expr × Expr × Bool × Place)
  | .expr (.assertion x none) => some (none, x, false, {})
  | .assign [lhs] pos op [.assertion x none] =>
    if op = ":=" then some (some lhs, x, false, pos)
    else if op = "=" then some (some lhs, x, true, pos)
    else none
  | _ => none

/-- A choice by value or type. -/
def switch : Reader Stmt := do
  let start ← expect (.kw "switch")
  let (s₁, s₂) ← if (← kind) = .lbrace then pure (none, none) else
    atLevel (fun _ => -1) do
      let first ← if (← kind) = .semicolon then pure none
        else do pure (some (← simple r .basic).1)
      if (← kind) = .semicolon then
        next
        if (← kind) = .lbrace then pure (first, none)
        else pure (first, some (← simple r .basic).1)
      else pure (none, first)
  let guard := s₂.bind guard?
  match guard with
  | some (_, _, true, pos) => complain pos "expected ':=', found '='"
  | _ => pure ()
  let _ ← expect .lbrace
  let clauses ← collect do
    let k ← kind
    if k = .kw "case" || k = .kw "default" then return ([← caseClause r], true)
    return ([], false)
  let _ ← expect .rbrace
  expectSemi
  match guard with
  | some (lhs, x, _, _) => return .typeSwitch start s₁ lhs x clauses
  | none =>
    match s₂ with
    | some s => return .switch start s₁ (some (← asExpr "switch expression" s)) clauses
    | none => return .switch start s₁ none clauses

/-- One clause of a choice by communication. -/
def commClause : Reader Clause := do
  let t ← peek
  let comm ← if t.kind = .kw "case" then do
      next
      let lhs ← list r false
      let u ← peek
      let x := lhs.headD default
      if u.kind = .sym "<-" then
        if 1 < lhs.length then complainExpected x.pos "1 expression"
        next
        pure (some (Stmt.send x (← value r)))
      else if u.kind = .sym "=" || u.kind = .sym ":=" then
        if 2 < lhs.length then complainExpected x.pos "1 or 2 expressions"
        next
        let y ← value r
        pure (some (Stmt.assign (lhs.take 2) u.pos u.kind.text [y]))
      else
        if 1 < lhs.length then complainExpected x.pos "1 expression"
        pure (some (Stmt.expr x))
    else do
      let _ ← expect (.kw "default")
      pure none
  let _ ← expect (.sym ":")
  return .comm t.pos comm (← (r ()).stmts)

/-- A choice by communication. -/
def select : Reader Stmt := do
  let start ← expect (.kw "select")
  let _ ← expect .lbrace
  let clauses ← collect do
    let k ← kind
    if k = .kw "case" || k = .kw "default" then return ([← commClause r], true)
    return ([], false)
  let _ ← expect .rbrace
  expectSemi
  return .select start clauses

/-- A loop. -/
def loop : Reader Stmt := do
  let start ← expect (.kw "for")
  let (s₁, s₂, s₃, ranging) ← if (← kind) = .lbrace then pure (none, none, none, false) else
    atLevel (fun _ => -1) do
      let t ← peek
      let (first, ranging) ← if t.kind = .semicolon then pure (none, false)
        else if t.kind = .kw "range" then do
          next
          pure (some (Stmt.assign [] t.pos [] [← value r]), true)
        else do
          let (s, b) ← simple r .rangeOk
          pure (some s, b)
      if !ranging && (← kind) = .semicolon then
        next
        let u ← peek
        let test ← if u.kind = .semicolon then pure none
          else if u.kind = .lbrace then do
            complainExpected u.pos "for loop condition"
            pure none
          else do pure (some (← simple r .basic).1)
        if u.kind ≠ .lbrace then expectSemi
        let post ← if (← kind) = .lbrace then pure none
          else do pure (some (← simple r .basic).1)
        pure (first, test, post, false)
      else pure (none, first, none, ranging)
  let body ← block r
  expectSemi
  match ranging, s₂ with
  | true, some (.assign lhs _ op [x]) =>
    match lhs with
    | [] => return .range start none none op x body
    | [k] => return .range start (some k) none op x body
    | [k, v] => return .range start (some k) (some v) op x body
    | _ =>
      complainExpected ((lhs.getLast?.map Expr.pos).getD start) "at most 2 expressions"
      return .bad start
  | _, s₂ =>
    let test ← match s₂ with
      | some s => do pure (some (← asExpr "boolean or range expression" s))
      | none => pure none
    return .loop start s₁ test s₃ body

/-! ## Declarations -/

/-- One import. -/
def importSpec : Reader Spec := do
  let t ← peek
  let name ← if t.kind = .ident then do pure (some (← ident))
    else if t.kind = .sym "." then do
      next
      pure (some (⟨t.pos, "."⟩ : Name))
    else pure none
  let u ← peek
  let path ← if u.kind = .string then do
      next
      pure u.lit
    else if u.kind.isLiteral then do
      complain u.pos "import path must be a string"
      next
      pure []
    else do
      complain u.pos "missing import path; require quoted string"
      advance endsExpression
      pure []
  expectSemi
  return .importing name u.pos path

/-- Names separated by commas. -/
def identList : Reader (List Name) := do
  let first ← ident
  let rest ← collect do
    if (← kind) = .sym "," then
      next
      return ([← ident], true)
    else return ([], false)
  return first :: rest

/-- One specification of constants, as it is written. -/
def constSpec : Reader (List Name × Option Expr × List Expr) := do
  let names ← identList
  let k ← kind
  let (typ, values) ← if k = .eof || k = .semicolon || k = .sym ")" then pure (none, []) else do
    let typ ← (r ()).type?
    if (← kind) = .sym "=" then
      next
      pure (typ, ← list r true)
    else pure (typ, [])
  expectSemi
  return (names, typ, values)

/-- One specification of variables. -/
def varSpec : Reader Spec := do
  let names ← identList
  let typ ← if (← kind) = .sym "=" then pure none else do pure (some (← type r))
  let values ← if (← kind) = .sym "=" then do
      next
      list r true
    else pure []
  expectSemi
  return .vars names typ values

/-- Whether an expression can only be an element of a type set. -/
def isTypeElement : Expr → Bool
  | .arrayType .. | .structType .. | .funcType .. | .interfaceType .. | .mapType ..
  | .chanType .. => true
  | .binary x _ _ y => isTypeElement x || isTypeElement y
  | .unary _ op _ => op = "~"
  | .paren _ x => isTypeElement x
  | _ => false

/-- An expression as the name of a type parameter and its constraint. A name that is
followed by a star or by parentheses is one only if what follows is a type, or if
`force` is set. -/
def splitName? (force : Bool) : Expr → Option (Name × Option Expr)
  | .ident n => some (n, none)
  | .binary x pos op y =>
    if op = "*" then
      match x with
      | .ident n => if force || isTypeElement y then some (n, some (.star pos y)) else none
      | _ => none
    else if op = "|" then
      match splitName? (force || isTypeElement y) x with
      | some (n, some lhs) => some (n, some (.binary lhs pos op y))
      | _ => none
    else none
  | .call (.ident n) [arg] false _ =>
    if force || isTypeElement arg then some (n, some arg) else none
  | _ => none

/-- The type of a declaration behind its type parameters, and whether it is another name. -/
def declaredType : Reader (Bool × Expr) := do
  let isAlias := decide ((← kind) = .sym "=")
  if isAlias then next
  return (isAlias, ← type r)

/-- One type. A bracket behind its name starts type parameters, or the type of an array. -/
def typeSpec : Reader Spec := do
  let name ← ident
  let t ← peek
  let (params, isAlias, typ) ← if t.kind = .sym "[" then do
      next
      if (← kind) = .ident then
        let first : Expr := .ident (← ident)
        let x ← if (← kind) = .sym "[" then pure first else deeper do
          let n := (← get).tokens.length
          let x ← primaryTail r (n + 1) first
          binaryTail r 1 (n + 1) x
        let k ← kind
        let split := match splitName? (decide (k = .sym ",")) x with
          | some (n, typ) => if typ.isSome || k ≠ .sym "]" then some (n, typ) else none
          | none => none
        match split with
        | some (n, typ) =>
          let params ← paramList r (some n) typ true
          let _ ← expect (.sym "]")
          let (isAlias, typ) ← declaredType r
          pure (params, isAlias, typ)
        | none => pure ([], false, ← arrayType r t.pos (some x))
      else pure ([], false, ← arrayType r t.pos none)
    else do
      let (isAlias, typ) ← declaredType r
      pure ([], isAlias, typ)
  expectSemi
  return .typing name params isAlias typ

/-- Constants whose type and values are missing take those of the specification before. -/
def inheritConsts : Nat → Option Expr × List Expr →
    List (List Name × Option Expr × List Expr) → List Spec
  | _, _, [] => []
  | i, last, (names, typ, values) :: rest =>
    if typ.isNone && values.isEmpty then
      .consts names last.1 last.2 i (0 < i) :: inheritConsts (i + 1) last rest
    else .consts names typ values i false :: inheritConsts (i + 1) (typ, values) rest

/-- The specifications of a declaration: one, or several in parentheses. -/
def specs (p : Reader α) : Reader (List α) := do
  if (← kind) = .sym "(" then
    next
    let out ← collect do
      let k ← kind
      if k = .sym ")" || k = .eof then return ([], false)
      return ([← p], true)
    let _ ← expect (.sym ")")
    expectSemi
    return out
  else return [← p]

/-- A declaration that a keyword introduces, of the given word. -/
def group (word : Bytes) : Reader (List Spec) := do
  next
  if word = "import" then specs importSpec
  else if word = "const" then return inheritConsts 0 (none, []) (← specs (constSpec r))
  else if word = "var" then specs (varSpec r)
  else specs (typeSpec r)

/-- A statement. -/
def stmt : Reader Stmt := do
  let t ← peek
  let simpleStmt : Reader Stmt := do
    let (s, _) ← simple r .labelOk
    match s with
    | .labeled .. => pure ()
    | _ => expectSemi
    return s
  let nothing : Reader Stmt := do
    complainExpected t.pos "statement"
    advance startsStatement
    return .bad t.pos
  match t.kind with
  | .ident | .int | .float | .imag | .char | .string => simpleStmt
  | .word w =>
    if w = "const" || w = "type" || w = "var" then return .decl t.pos w (← group r w)
    else if w = "func" || w = "struct" || w = "map" || w = "chan" || w = "interface" then
      simpleStmt
    else if w = "go" || w = "defer" then
      next
      let x ← callOf r w
      expectSemi
      match x with
      | none => return .bad t.pos
      | some c => return if w = "go" then .go t.pos c else .defer t.pos c
    else if w = "return" then
      next
      let k ← kind
      let xs ← if k = .semicolon || k = .rbrace then pure [] else list r true
      expectSemi
      return .ret t.pos xs
    else if w = "break" || w = "continue" || w = "goto" || w = "fallthrough" then
      next
      let label ← if w = "goto" || (w ≠ "fallthrough" && (← kind) = .ident) then do
          pure (some (← ident))
        else pure none
      expectSemi
      return .branch t.pos w label
    else if w = "if" then cond r
    else if w = "switch" then switch r
    else if w = "select" then select r
    else if w = "for" then loop r
    else nothing
  | .op o =>
    if o = "(" || o = "[" || o = "+" || o = "-" || o = "*" || o = "&" || o = "^" || o = "~"
        || o = "<-" || o = "!" then simpleStmt
    else if o = [lbrace] then
      let b ← block r
      expectSemi
      return .block b
    else if o = ";" then
      next
      return .empty t.pos
    else if o = [rbrace] then return .empty t.pos
    else nothing
  | _ => nothing

/-- Statements up to the end of a block or clause. -/
def stmts : Reader (List Stmt) :=
  collect do
    let k ← kind
    if k = .kw "case" || k = .kw "default" || k = .rbrace || k = .eof then return ([], false)
    return ([← (r ()).stmt], true)

end

/-- The rules of the next level. -/
def build (r : Unit → Rules) : Rules where
  binary := binary r
  unary := unary r
  type? := tryType r
  stmts := stmts r
  stmt := stmt r
  literal := literalValue r

/-- **The grammar, up to a depth of nesting.** -/
def rules : Nat → Rules
  | 0 => .none
  | n + 1 => build fun _ => rules n

section

variable (r : Unit → Rules)

/-- A function or method. -/
def funcDecl : Reader FuncDecl := do
  let start ← expect (.kw "func")
  let receiver ← if (← kind) = .sym "(" then do pure (some (← params r false)) else pure none
  let name ← ident
  let params ← typeParams r
  let params ← match receiver, params with
    | some _, some (p, _) => do
      complain p "method must have no type parameters"
      pure []
    | _, some (_, fields) => pure fields
    | _, none => pure []
  let sig ← signature r
  let t ← peek
  let body ← if t.kind = .lbrace then do
      let b ← block r
      expectSemi
      pure (some b)
    else if t.kind = .semicolon then do
      next
      let u ← peek
      if u.kind = .lbrace then
        complain u.pos "unexpected semicolon or newline before \x7b"
        let b ← block r
        expectSemi
        pure (some b)
      else pure none
    else do
      expectSemi
      pure none
  return ⟨start, receiver, name, params, sig, body⟩

/-- A declaration. -/
def decl : Reader Decl := do
  let t ← peek
  match t.kind with
  | .word w =>
    if w = "import" || w = "const" || w = "var" || w = "type" then return .group (← group r w)
    else if w = "func" then return .func (← funcDecl r)
    else
      complainExpected t.pos "declaration"
      advance startsDeclaration
      return .bad
  | _ =>
    complainExpected t.pos "declaration"
    advance startsDeclaration
    return .bad

end

/-- The declarations up to the end of the file, `n` at most. Imports come first. -/
def decls (r : Unit → Rules) : Bool → Nat → Reader (List Decl)
  | _, 0 => pure []
  | importsOk, n + 1 => do
    let t ← peek
    if t.kind = .eof then return []
    let isImport := decide (t.kind = .kw "import")
    if isImport && !importsOk then
      complain t.pos "imports must appear before other declarations"
    let d ← decl r
    return d :: (← decls r isImport n)

/-- Whether anything up to the token ahead was complained about. -/
def complained (scanned : List Complaint) : Reader Bool := do
  let p ← here
  return !(← get).complaints.isEmpty || scanned.any fun c => c.pos.offset ≤ p.offset

/-- A file. Without a sound package clause the rest is not read. -/
def file (name : Bytes) (scanned : List Complaint) (r : Unit → Rules) : Reader File := do
  if ← complained scanned then return { name, packagePos := {}, package := default, decls := [] }
  let start ← expect (.kw "package")
  let package ← ident
  expectSemi
  if ← complained scanned then return { name, packagePos := start, package, decls := [] }
  let n := (← get).tokens.length
  return { name, packagePos := start, package, decls := ← decls r true n }

/-- The order of complaints: by where they are shown, then by text. -/
def before (a b : Site × Bytes) : Bool := if a.1 = b.1 then Bytes.le a.2 b.2 else a.1.le b.1

/-- **A file and what is wrong with its grammar**, in the order of the places as they are
shown. -/
def parseFile (name text : Bytes) : File × List (Site × Bytes) :=
  let source := Scanner.scan name text
  let scanned := source.complaints
  let depth := 2 * source.tokens.length + 16
  let (f, s) := (file name scanned fun _ => rules depth).run { tokens := source.tokens }
  let stopped := ((s.tokens.head?).map fun t => t.pos.offset).getD 0
  let seen := scanned.filter fun c => c.pos.offset ≤ stopped
  let shown := (s.complaints ++ seen).map fun c => (LineMark.locate source.marks name c.pos, c.msg)
  ({ f with marks := source.marks, version := source.version }, shown.mergeSort before)

end Stencil.Host.Grammar
