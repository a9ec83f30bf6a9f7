import Stencil.Host.LineMark

/-!
# Trees of the host language

The tree of a file: declarations, statements and expressions, as far as the check of a
package needs them. Types are written as expressions. A part of a file that does not
parse is a `bad` node.

`Expr.pos` is where a node starts, and `Expr.render` writes an expression the way
messages quote it: on one line, with the contents of literals left out.
-/

namespace Stencil.Host

open Bytes

/-- A name where it occurs. -/
structure Name where
  /-- Where it stands. -/
  pos : Place
  /-- The name. -/
  text : Bytes
  deriving DecidableEq, Repr, Inhabited

/-- The directions of a channel. -/
inductive Direction where
  /-- Both ways. -/
  | both
  /-- Sending only. -/
  | send
  /-- Receiving only. -/
  | receive
  deriving DecidableEq, Repr, Inhabited

mutual

/-- **An expression or a type.** -/
inductive Expr where
  /-- Something that does not parse. -/
  | bad (start : Place)
  /-- A name. -/
  | ident (name : Name)
  /-- A literal of a basic type. -/
  | lit (start : Place) (kind : Tok) (text : Bytes)
  /-- A function literal. -/
  | funcLit (start : Place) (type : FuncType) (body : Block)
  /-- A composite literal. -/
  | composite (type : Option Expr) (lbrace : Place) (elements : List Expr) (rbrace : Place)
  /-- An expression in parentheses. -/
  | paren (start : Place) (x : Expr)
  /-- A selection. -/
  | selector (x : Expr) (sel : Name)
  /-- An index, or type arguments. -/
  | index (x : Expr) (indices : List Expr)
  /-- A slice. -/
  | slice (x : Expr) (lo hi max : Option Expr) (full : Bool)
  /-- A type assertion; without a type in a type switch. -/
  | assertion (x : Expr) (type : Option Expr)
  /-- A call or a conversion. -/
  | call (fn : Expr) (args : List Expr) (spread : Bool) (rparen : Place)
  /-- A dereference or a pointer type. -/
  | star (start : Place) (x : Expr)
  /-- A unary operation. -/
  | unary (start : Place) (op : Bytes) (x : Expr)
  /-- A binary operation. -/
  | binary (x : Expr) (opPos : Place) (op : Bytes) (y : Expr)
  /-- A key and a value in a composite literal. -/
  | keyValue (key value : Expr)
  /-- An array type, or a slice type if there is no length. -/
  | arrayType (start : Place) (len : Option Expr) (elem : Expr)
  /-- The type of further arguments, or the length of an array that is counted. -/
  | ellipsis (start : Place) (elem : Option Expr)
  /-- A structure type. -/
  | structType (start : Place) (fields : List Field)
  /-- A function type. -/
  | funcType (start : Place) (type : FuncType)
  /-- An interface type. -/
  | interfaceType (start : Place) (members : List Field)
  /-- A map type. -/
  | mapType (start : Place) (key value : Expr)
  /-- A channel type. -/
  | chanType (start : Place) (dir : Direction) (elem : Expr)

/-- Names of one type: fields, parameters, methods, or an embedded type. -/
inductive Field where
  /-- The names, none for an embedded type, the type and the tag. -/
  | mk (names : List Name) (type : Expr) (tag : Option Bytes)

/-- The parameters and results of a function. -/
inductive FuncType where
  /-- Parameters, results, and whether a list of results is written. -/
  | mk (params results : List Field) (hasResults : Bool)

/-- Statements between braces. -/
inductive Block where
  /-- The braces and what is between them. -/
  | mk (lbrace : Place) (stmts : List Stmt) (rbrace : Place)

/-- **A statement.** -/
inductive Stmt where
  /-- Something that does not parse. -/
  | bad (start : Place)
  /-- A declaration, with the word it starts with. -/
  | decl (start : Place) (word : Bytes) (specs : List Spec)
  /-- Nothing. -/
  | empty (start : Place)
  /-- A statement with a label. -/
  | labeled (label : Name) (stmt : Stmt)
  /-- An expression. -/
  | expr (x : Expr)
  /-- Sending to a channel. -/
  | send (channel value : Expr)
  /-- Counting up or down. -/
  | incDec (x : Expr) (opPos : Place) (op : Bytes)
  /-- An assignment, or a definition. -/
  | assign (lhs : List Expr) (opPos : Place) (op : Bytes) (rhs : List Expr)
  /-- A call on its own. -/
  | go (start : Place) (call : Expr)
  /-- A call at the end of the function. -/
  | defer (start : Place) (call : Expr)
  /-- Leaving the function. -/
  | ret (start : Place) (results : List Expr)
  /-- A jump. -/
  | branch (start : Place) (word : Bytes) (label : Option Name)
  /-- A block. -/
  | block (body : Block)
  /-- A conditional. -/
  | cond (start : Place) (init : Option Stmt) (test : Expr) (body : Block) (other : Option Stmt)
  /-- A choice by value. -/
  | switch (start : Place) (init : Option Stmt) (tag : Option Expr) (clauses : List Clause)
  /-- A choice by type; the guard has a left side if it declares a name. -/
  | typeSwitch (start : Place) (init : Option Stmt) (lhs : Option Expr) (x : Expr)
      (clauses : List Clause)
  /-- A choice by communication. -/
  | select (start : Place) (clauses : List Clause)
  /-- A loop. -/
  | loop (start : Place) (init : Option Stmt) (test : Option Expr) (post : Option Stmt)
      (body : Block)
  /-- A loop over the parts of a value. -/
  | range (start : Place) (key value : Option Expr) (op : Bytes) (x : Expr) (body : Block)

/-- One clause of a choice. -/
inductive Clause where
  /-- The values or types, none for the default, and the statements. -/
  | case (start : Place) (values : Option (List Expr)) (body : List Stmt)
  /-- The communication, none for the default, and the statements. -/
  | comm (start : Place) (comm : Option Stmt) (body : List Stmt)

/-- One specification of a declaration. -/
inductive Spec where
  /-- An import. -/
  | importing (name : Option Name) (pos : Place) (path : Bytes)
  /-- Constants, with their number in the group, and whether type and values are taken
  from the specification before. -/
  | consts (names : List Name) (type : Option Expr) (values : List Expr) (iota : Nat)
      (inherited : Bool)
  /-- Variables. -/
  | vars (names : List Name) (type : Option Expr) (values : List Expr)
  /-- A type, or another name of a type, with its type parameters. -/
  | typing (name : Name) (typeParams : List Field) (isAlias : Bool) (type : Expr)

end

instance : Inhabited Expr := ⟨.bad {}⟩
instance : Inhabited Stmt := ⟨.bad {}⟩
instance : Inhabited Block := ⟨.mk {} [] {}⟩
instance : Inhabited FuncType := ⟨.mk [] [] false⟩
instance : Inhabited Field := ⟨.mk [] default none⟩
instance : Inhabited Clause := ⟨.case {} none []⟩
instance : Inhabited Spec := ⟨.vars [] none []⟩

namespace Field

/-- The names. -/
def names : Field → List Name | .mk ns _ _ => ns

/-- The type. -/
def type : Field → Expr | .mk _ t _ => t

/-- The tag. -/
def tag : Field → Option Bytes | .mk _ _ t => t

end Field

namespace FuncType

/-- The parameters. -/
def params : FuncType → List Field | .mk ps _ _ => ps

/-- The results. -/
def results : FuncType → List Field | .mk _ rs _ => rs

/-- Whether a list of results is written. -/
def hasResults : FuncType → Bool | .mk _ _ h => h

end FuncType

namespace Block

/-- The statements. -/
def stmts : Block → List Stmt | .mk _ ss _ => ss

/-- The closing brace. -/
def rbrace : Block → Place | .mk _ _ r => r

/-- The opening brace. -/
def lbrace : Block → Place | .mk l _ _ => l

end Block

/-- A function or method with its body. -/
structure FuncDecl where
  /-- Where it starts. -/
  pos : Place
  /-- The receiver; none for a function, empty if the parentheses are. -/
  receiver : Option (List Field)
  /-- The name. -/
  name : Name
  /-- The type parameters. -/
  typeParams : List Field
  /-- Parameters and results. -/
  type : FuncType
  /-- The body. -/
  body : Option Block

/-- **A declaration of a file.** -/
inductive Decl where
  /-- Something that does not parse. -/
  | bad
  /-- A group of imports, constants, variables or types. -/
  | group (specs : List Spec)
  /-- A function. -/
  | func (f : FuncDecl)

/-- **A file.** -/
structure File where
  /-- The name of the file. -/
  name : Bytes
  /-- Where the package clause starts. -/
  packagePos : Place
  /-- The name of the package. -/
  package : Name
  /-- The declarations, in order. -/
  decls : List Decl
  /-- The places from which on positions are shown differently. -/
  marks : List LineMark := []
  /-- The minor version of the language the file is limited to. -/
  version : Option Nat := none

namespace Expr

/-- Where an expression starts. -/
def pos : Expr → Place
  | .bad p => p
  | .ident n => n.pos
  | .lit p _ _ => p
  | .funcLit p _ _ => p
  | .composite none l _ _ => l
  | .composite (some t) _ _ _ => pos t
  | .paren p _ => p
  | .selector x _ => pos x
  | .index x _ => pos x
  | .slice x _ _ _ _ => pos x
  | .assertion x _ => pos x
  | .call f _ _ _ => pos f
  | .star p _ => p
  | .unary p _ _ => p
  | .binary x _ _ _ => pos x
  | .keyValue k _ => pos k
  | .arrayType p _ _ => p
  | .ellipsis p _ => p
  | .structType p _ => p
  | .funcType p _ => p
  | .interfaceType p _ => p
  | .mapType p _ _ => p
  | .chanType p _ _ => p

/-- An expression without parentheses around it. -/
def unparen : Expr → Expr
  | .paren _ x => unparen x
  | x => x

end Expr

/-- Where a statement starts. -/
def Stmt.pos : Stmt → Place
  | .bad p => p
  | .decl p _ _ => p
  | .empty p => p
  | .labeled l _ => l.pos
  | .expr x => x.pos
  | .send c _ => c.pos
  | .incDec x _ _ => x.pos
  | .assign l p _ _ => (l.head?.map Expr.pos).getD p
  | .go p _ => p
  | .defer p _ => p
  | .ret p _ => p
  | .branch p _ _ => p
  | .block b => b.lbrace
  | .cond p _ _ _ _ => p
  | .switch p _ _ _ => p
  | .typeSwitch p _ _ _ _ => p
  | .select p _ => p
  | .loop p _ _ _ _ => p
  | .range p _ _ _ _ _ => p

/-! ## Writing expressions -/

mutual

/-- **An expression as messages quote it.** -/
def Expr.render : Expr → Bytes
  | .bad _ => "BadExpr"
  | .ident n => n.text
  | .lit _ _ t => t
  | .funcLit _ t _ => "(func" ++ t.render ++ " literal)"
  | .composite none _ es _ => Expr.renderBraces es
  | .composite (some t) _ es _ => t.render ++ Expr.renderBraces es
  | .paren _ x => "(" ++ x.render ++ ")"
  | .selector x s => x.render ++ "." ++ s.text
  | .index x is => x.render ++ "[" ++ join ", " (Expr.renderAll is) ++ "]"
  | .slice x lo hi mx full =>
    let last : Bytes := if full then ":" ++ Expr.renderOption mx else []
    x.render ++ "[" ++ Expr.renderOption lo ++ ":" ++ Expr.renderOption hi ++ last ++ "]"
  | .assertion x none => x.render ++ ".(type)"
  | .assertion x (some t) => x.render ++ ".(" ++ t.render ++ ")"
  | .call f as spread _ =>
    let dots : Bytes := if spread then "..." else []
    f.render ++ "(" ++ join ", " (Expr.renderAll as) ++ dots ++ ")"
  | .star _ x => "*" ++ x.render
  | .unary _ op x => op ++ x.render
  | .binary x _ op y => x.render ++ " " ++ op ++ " " ++ y.render
  | .keyValue k v => k.render ++ ": " ++ v.render
  | .arrayType _ len e => "[" ++ Expr.renderOption len ++ "]" ++ e.render
  | .ellipsis _ e => "..." ++ Expr.renderOption e
  | .structType _ fs => "struct\x7b" ++ join "; " (Field.renderAll fs) ++ [rbrace]
  | .funcType _ t => "func" ++ t.render
  | .interfaceType _ ms => "interface\x7b" ++ join "; " (Field.renderMembers ms) ++ [rbrace]
  | .mapType _ k v => "map[" ++ k.render ++ "]" ++ v.render
  | .chanType _ dir e =>
    (match dir with
      | .both => Bytes.ofString "chan "
      | .send => Bytes.ofString "chan<- "
      | .receive => Bytes.ofString "<-chan ") ++ e.render

/-- The elements of a composite literal, left out. -/
def Expr.renderBraces : List Expr → Bytes
  | [] => [lbrace, rbrace]
  | _ :: _ => lbrace :: Utf8.encode 0x2026 ++ [rbrace]

/-- An expression that may be missing. -/
def Expr.renderOption : Option Expr → Bytes
  | none => []
  | some x => x.render

/-- Expressions, each on its own. -/
def Expr.renderAll : List Expr → List Bytes
  | [] => []
  | x :: xs => x.render :: Expr.renderAll xs

/-- Names and their type. -/
def Field.render : Field → Bytes
  | .mk ns t _ =>
    let names := join ", " (ns.map Name.text)
    if ns.isEmpty then t.render else names ++ " " ++ t.render

/-- Fields, each on its own. -/
def Field.renderAll : List Field → List Bytes
  | [] => []
  | f :: fs => Field.render f :: Field.renderAll fs

/-- Methods and embedded types, each on its own. -/
def Field.renderMembers : List Field → List Bytes
  | [] => []
  | .mk ns t _ :: fs =>
    (match ns, t with
      | n :: _, .funcType _ ft => n.text ++ ft.render
      | _, t => t.render) :: Field.renderMembers fs

/-- Parameters and results. -/
def FuncType.render : FuncType → Bytes
  | .mk ps rs _ =>
    let params := "(" ++ join ", " (Field.renderAll ps) ++ ")"
    match rs with
    | [] => params
    | [.mk [] t _] => params ++ " " ++ t.render
    | rs => params ++ " (" ++ join ", " (Field.renderAll rs) ++ ")"

end

end Stencil.Host
