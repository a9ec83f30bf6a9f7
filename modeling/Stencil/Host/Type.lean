import Stencil.Host.Constant
import Stencil.Host.Tree

/-!
# Types of the host language

A type that is declared is known by its package and name, and what it stands for is
looked up where it is needed; every other type is its own structure. So types can refer
to each other, and two types are identical when they are built the same way from the
same declared types.

A declared type can have type parameters. It is used with an argument for each of them,
and `Ty.subst` puts arguments in the place of parameters.

`Ty.render` writes a type. How the packages of declared types are written is up to the
caller: messages use the package's name, module files its path.
-/

namespace Stencil.Host

open Bytes

/-- A place in one of several files. -/
structure Loc where
  /-- The name of the file. -/
  file : Bytes := []
  /-- The place in it. -/
  pos : Place := {}
  deriving DecidableEq, Repr, Inhabited

/-- The basic types, and the types of constants that have none yet. -/
inductive Basic where
  /-- No type, because something is wrong. -/
  | invalid
  /-- Truth values. -/
  | bool
  /-- Signed integers of the natural width. -/
  | int
  /-- Signed integers of 8 bits. -/
  | int8
  /-- Signed integers of 16 bits. -/
  | int16
  /-- Signed integers of 32 bits. -/
  | int32
  /-- Signed integers of 64 bits. -/
  | int64
  /-- Unsigned integers of the natural width. -/
  | uint
  /-- Unsigned integers of 8 bits. -/
  | uint8
  /-- Unsigned integers of 16 bits. -/
  | uint16
  /-- Unsigned integers of 32 bits. -/
  | uint32
  /-- Unsigned integers of 64 bits. -/
  | uint64
  /-- Unsigned integers that hold an address. -/
  | uintptr
  /-- Fractions of 32 bits. -/
  | float32
  /-- Fractions of 64 bits. -/
  | float64
  /-- Complex numbers of 64 bits. -/
  | complex64
  /-- Complex numbers of 128 bits. -/
  | complex128
  /-- Texts. -/
  | string
  /-- Another name of the unsigned integers of 8 bits. -/
  | byte
  /-- Another name of the signed integers of 32 bits. -/
  | rune
  /-- Truth values of no type yet. -/
  | untypedBool
  /-- Integers of no type yet. -/
  | untypedInt
  /-- Characters of no type yet. -/
  | untypedRune
  /-- Fractions of no type yet. -/
  | untypedFloat
  /-- Complex numbers of no type yet. -/
  | untypedComplex
  /-- Texts of no type yet. -/
  | untypedString
  /-- The value nil. -/
  | untypedNil
  deriving DecidableEq, Repr, Inhabited

namespace Basic

/-- The name of a basic type. -/
def name : Basic → Bytes
  | .invalid => "invalid type"
  | .bool => "bool"
  | .int => "int"
  | .int8 => "int8"
  | .int16 => "int16"
  | .int32 => "int32"
  | .int64 => "int64"
  | .uint => "uint"
  | .uint8 => "uint8"
  | .uint16 => "uint16"
  | .uint32 => "uint32"
  | .uint64 => "uint64"
  | .uintptr => "uintptr"
  | .float32 => "float32"
  | .float64 => "float64"
  | .complex64 => "complex64"
  | .complex128 => "complex128"
  | .string => "string"
  | .byte => "byte"
  | .rune => "rune"
  | .untypedBool => "untyped bool"
  | .untypedInt => "untyped int"
  | .untypedRune => "untyped rune"
  | .untypedFloat => "untyped float"
  | .untypedComplex => "untyped complex"
  | .untypedString => "untyped string"
  | .untypedNil => "untyped nil"

/-- The type itself for the two that have a second name. -/
def canonical : Basic → Basic
  | .byte => .uint8
  | .rune => .int32
  | b => b

/-- Whether values of the type have no type yet. -/
def isUntyped : Basic → Bool
  | .untypedBool | .untypedInt | .untypedRune | .untypedFloat | .untypedComplex
  | .untypedString | .untypedNil => true
  | _ => false

/-- Whether the type is one of integers. -/
def isInteger : Basic → Bool
  | .int | .int8 | .int16 | .int32 | .int64 | .uint | .uint8 | .uint16 | .uint32 | .uint64
  | .uintptr | .byte | .rune | .untypedInt | .untypedRune => true
  | _ => false

/-- Whether the type is one of unsigned integers. -/
def isUnsigned : Basic → Bool
  | .uint | .uint8 | .uint16 | .uint32 | .uint64 | .uintptr | .byte => true
  | _ => false

/-- Whether the type is one of fractions. -/
def isFloat : Basic → Bool
  | .float32 | .float64 | .untypedFloat => true
  | _ => false

/-- Whether the type is one of complex numbers. -/
def isComplex : Basic → Bool
  | .complex64 | .complex128 | .untypedComplex => true
  | _ => false

/-- Whether the type is one of numbers. -/
def isNumeric (b : Basic) : Bool := b.isInteger || b.isFloat || b.isComplex

/-- Whether the type is one of truth values. -/
def isBoolean (b : Basic) : Bool := b = .bool || b = .untypedBool

/-- Whether the type is one of texts. -/
def isString (b : Basic) : Bool := b = .string || b = .untypedString

/-- The width of a type of integers, which for the natural width is 64. -/
def bits : Basic → Nat
  | .int8 | .uint8 | .byte => 8
  | .int16 | .uint16 => 16
  | .int32 | .uint32 | .rune => 32
  | _ => 64

/-- The type a constant of no type gets when nothing else decides. -/
def default_ : Basic → Basic
  | .untypedBool => .bool
  | .untypedInt => .int
  | .untypedRune => .rune
  | .untypedFloat => .float64
  | .untypedComplex => .complex128
  | .untypedString => .string
  | b => b

/-- The order of the types of untyped numbers. -/
def rank : Basic → Nat
  | .untypedInt => 1
  | .untypedRune => 2
  | .untypedFloat => 3
  | .untypedComplex => 4
  | _ => 0

end Basic

/-- What identifies a declared type. -/
structure TypeId where
  /-- The path of its package, empty for the predeclared ones. -/
  pkg : Bytes
  /-- Its name. -/
  name : Bytes
  /-- A number that tells types declared inside functions apart, zero outside. -/
  serial : Nat := 0
  deriving DecidableEq, Repr, Inhabited

mutual

/-- **A type.** -/
inductive Ty where
  /-- A basic type. -/
  | basic (b : Basic)
  /-- A declared type, with its type arguments. -/
  | named (id : TypeId) (args : List Ty)
  /-- A type parameter. -/
  | param (id : TypeId)
  /-- Another name of a type, with its type arguments. -/
  | renamed (id : TypeId) (args : List Ty) (target : Ty)
  /-- Pointers. -/
  | pointer (elem : Ty)
  /-- Slices. -/
  | slice (elem : Ty)
  /-- Arrays; without a length if the length is wrong. -/
  | array (len : Option Nat) (elem : Ty)
  /-- Maps. -/
  | map (key elem : Ty)
  /-- Channels. -/
  | chan (dir : Direction) (elem : Ty)
  /-- Structures. -/
  | struct (fields : List FieldTy)
  /-- Functions. -/
  | func (sig : Sig)
  /-- Interfaces: methods, and embedded types. -/
  | iface (methods : List MethodTy) (embedded : List Ty)
  /-- One of several types, in a constraint. -/
  | union (terms : List Term)
  /-- The results of a function that has not exactly one. -/
  | tuple (parts : List Ty)

/-- An alternative of a constraint. -/
inductive Term where
  /-- Whether all types of the underlying type are meant, and the type. -/
  | mk (tilde : Bool) (type : Ty)

/-- A type parameter of a function. -/
inductive TypeParam where
  /-- What identifies it, and its constraint. -/
  | mk (id : TypeId) (bound : Ty)

/-- A field of a structure. -/
inductive FieldTy where
  /-- Name, package, type, whether it is embedded, tag, and where it is declared. -/
  | mk (name pkg : Bytes) (type : Ty) (embedded : Bool) (tag : Bytes) (loc : Loc)

/-- Parameters and results. -/
inductive Sig where
  /-- The type parameters, the names and types of parameters and results, and whether
  further arguments can follow. -/
  | mk (typeParams : List TypeParam) (params results : List ParamTy) (variadic : Bool)

/-- A parameter or result. -/
inductive ParamTy where
  /-- The name, empty for none, and the type. -/
  | mk (name : Bytes) (type : Ty)

/-- A method of an interface. -/
inductive MethodTy where
  /-- Name, package, and parameters and results. -/
  | mk (name pkg : Bytes) (sig : Sig)

end

instance : Inhabited Ty := ⟨.basic .invalid⟩
instance : Inhabited Sig := ⟨.mk [] [] [] false⟩
instance : Inhabited Term := ⟨.mk false default⟩
instance : Inhabited TypeParam := ⟨.mk default default⟩
instance : Inhabited FieldTy := ⟨.mk [] [] default false [] {}⟩
instance : Inhabited ParamTy := ⟨.mk [] default⟩
instance : Inhabited MethodTy := ⟨.mk [] [] default⟩

namespace FieldTy

/-- The name. -/
def name : FieldTy → Bytes | .mk n .. => n
/-- The package it is declared in. -/
def pkg : FieldTy → Bytes | .mk _ p .. => p
/-- The type. -/
def type : FieldTy → Ty | .mk _ _ t .. => t
/-- Whether it is embedded. -/
def embedded : FieldTy → Bool | .mk _ _ _ e .. => e
/-- Where it is declared. -/
def loc : FieldTy → Loc | .mk _ _ _ _ _ l => l

end FieldTy

namespace ParamTy

/-- The name. -/
def name : ParamTy → Bytes | .mk n _ => n
/-- The type. -/
def type : ParamTy → Ty | .mk _ t => t

end ParamTy

namespace Term

/-- Whether all types of the underlying type are meant. -/
def tilde : Term → Bool | .mk t _ => t
/-- The type. -/
def type : Term → Ty | .mk _ t => t

end Term

namespace TypeParam

/-- What identifies it. -/
def id : TypeParam → TypeId | .mk i _ => i
/-- The constraint. -/
def bound : TypeParam → Ty | .mk _ b => b

end TypeParam

namespace Sig

/-- The type parameters. -/
def typeParams : Sig → List TypeParam | .mk ts _ _ _ => ts
/-- The parameters. -/
def params : Sig → List ParamTy | .mk _ ps _ _ => ps
/-- The results. -/
def results : Sig → List ParamTy | .mk _ _ rs _ => rs
/-- Whether further arguments can follow. -/
def variadic : Sig → Bool | .mk _ _ _ v => v
/-- Whether the function has to be given types before it is one. -/
def isGeneric (s : Sig) : Bool := !s.typeParams.isEmpty

end Sig

namespace MethodTy

/-- The name. -/
def name : MethodTy → Bytes | .mk n _ _ => n
/-- The package it is declared in. -/
def pkg : MethodTy → Bytes | .mk _ p _ => p
/-- Parameters and results. -/
def sig : MethodTy → Sig | .mk _ _ s => s

end MethodTy

namespace Ty

/-- No type. -/
abbrev invalid : Ty := .basic .invalid

/-- The type behind other names of it. -/
def unrename : Ty → Ty
  | .renamed _ _ t => unrename t
  | t => t

/-- Whether there is no type. -/
def isInvalid (t : Ty) : Bool :=
  match t.unrename with
  | .basic .invalid => true
  | _ => false

/-- The type of errors. -/
def error : Ty := .named ⟨[], "error", 0⟩ []

/-- The interface without methods, under its own name. -/
def any : Ty := .renamed ⟨[], "any", 0⟩ [] (.iface [] [])

/-- Whether the value nil is all there is to know. -/
def isNil (t : Ty) : Bool :=
  match t with
  | .basic .untypedNil => true
  | _ => false

/-- Whether the type has no type yet. -/
def isUntyped : Ty → Bool
  | .basic b => b.isUntyped
  | _ => false

/-- The type a value of no type yet gets when nothing else decides. -/
def settled : Ty → Ty
  | .basic b => .basic b.default_
  | t => t

/-- Whether the type has a name. -/
def hasName : Ty → Bool
  | .basic _ | .named .. | .param _ | .renamed .. => true
  | _ => false

/-- Whether the type is a type parameter. -/
def isParam (t : Ty) : Bool :=
  match t.unrename with
  | .param _ => true
  | _ => false

end Ty

/-! ## Identity -/

/-- Whether two members have the same name: unexported names of different packages
differ. -/
def sameName (n p n' p' : Bytes) : Bool := n = n' && (isExported n || p = p')

mutual

/-- **Whether two types are identical**, tags included unless said otherwise. -/
def Ty.same (tags : Bool) : Ty → Ty → Bool
  | .renamed _ _ t, u => Ty.same tags t u
  | .basic a, u =>
    match u.unrename with
    | .basic b => a.canonical = b.canonical
    | _ => false
  | .named i as, u =>
    match u.unrename with
    | .named j bs => i = j && Ty.sameAll tags as bs
    | _ => false
  | .param i, u =>
    match u.unrename with
    | .param j => i = j
    | _ => false
  | .pointer a, u =>
    match u.unrename with
    | .pointer b => Ty.same tags a b
    | _ => false
  | .slice a, u =>
    match u.unrename with
    | .slice b => Ty.same tags a b
    | _ => false
  | .array n a, u =>
    match u.unrename with
    | .array m b => (n = m || n.isNone || m.isNone) && Ty.same tags a b
    | _ => false
  | .map k a, u =>
    match u.unrename with
    | .map l b => Ty.same tags k l && Ty.same tags a b
    | _ => false
  | .chan d a, u =>
    match u.unrename with
    | .chan e b => d = e && Ty.same tags a b
    | _ => false
  | .struct fs, u =>
    match u.unrename with
    | .struct gs => FieldTy.sameAll tags fs gs
    | _ => false
  | .func s, u =>
    match u.unrename with
    | .func s' => Sig.same tags s s'
    | _ => false
  | .iface ms es, u =>
    match u.unrename with
    | .iface ns fs => ms.length = ns.length && MethodTy.sameAll tags ms ns
        && Ty.sameAll tags es fs
    | _ => false
  | .union ts, u =>
    match u.unrename with
    | .union us => Term.sameAll tags ts us
    | _ => false
  | .tuple ts, u =>
    match u with
    | .tuple us => Ty.sameAll tags ts us
    | _ => false

/-- Whether two lists of types are identical one by one. -/
def Ty.sameAll (tags : Bool) : List Ty → List Ty → Bool
  | [], us => us.isEmpty
  | t :: ts, us =>
    match us with
    | [] => false
    | u :: us => Ty.same tags t u && Ty.sameAll tags ts us

/-- Whether two lists of alternatives are identical one by one. -/
def Term.sameAll (tags : Bool) : List Term → List Term → Bool
  | [], us => us.isEmpty
  | .mk tilde t :: ts, us =>
    match us with
    | [] => false
    | .mk tilde' u :: us => tilde = tilde' && Ty.same tags t u && Term.sameAll tags ts us

/-- Whether two lists of fields are identical one by one. -/
def FieldTy.sameAll (tags : Bool) : List FieldTy → List FieldTy → Bool
  | [], gs => gs.isEmpty
  | .mk n p t e tag _ :: fs, gs =>
    match gs with
    | [] => false
    | .mk n' p' t' e' tag' _ :: gs =>
      sameName n p n' p' && Ty.same tags t t' && e = e' && (!tags || tag = tag')
        && FieldTy.sameAll tags fs gs

/-- Whether two signatures are identical; names do not matter. -/
def Sig.same (tags : Bool) : Sig → Sig → Bool
  | .mk ts ps rs v, .mk ts' ps' rs' v' =>
    ts.length = ts'.length && v = v' && ParamTy.sameAll tags ps ps'
      && ParamTy.sameAll tags rs rs'

/-- Whether two lists of parameters have identical types. -/
def ParamTy.sameAll (tags : Bool) : List ParamTy → List ParamTy → Bool
  | [], qs => qs.isEmpty
  | .mk _ t :: ps, qs =>
    match qs with
    | [] => false
    | .mk _ u :: qs => Ty.same tags t u && ParamTy.sameAll tags ps qs

/-- Whether every method of one list is in the other. -/
def MethodTy.sameAll (tags : Bool) : List MethodTy → List MethodTy → Bool
  | [], _ => true
  | .mk n p s :: ms, ns =>
    (ns.any fun m => sameName n p m.name m.pkg && Sig.same tags s m.sig)
      && MethodTy.sameAll tags ms ns

end

/-- Whether two types are identical. -/
def Ty.identical (a b : Ty) : Bool := Ty.same true a b

/-! ## Types in the place of type parameters -/

/-- What stands in the place of type parameters. -/
abbrev Substitution := List (TypeId × Ty)

mutual

/-- **A type with types in the place of type parameters.** -/
def Ty.subst (m : Substitution) : Ty → Ty
  | .basic b => .basic b
  | .named id args => .named id (Ty.substAll m args)
  | .param id =>
    match m.find? fun e => e.1 = id with
    | some (_, t) => t
    | none => .param id
  | .renamed id args t => .renamed id (Ty.substAll m args) (Ty.subst m t)
  | .pointer t => .pointer (Ty.subst m t)
  | .slice t => .slice (Ty.subst m t)
  | .array n t => .array n (Ty.subst m t)
  | .map k t => .map (Ty.subst m k) (Ty.subst m t)
  | .chan d t => .chan d (Ty.subst m t)
  | .struct fs => .struct (FieldTy.substAll m fs)
  | .func s => .func (Sig.subst m s)
  | .iface ms es => .iface (MethodTy.substAll m ms) (Ty.substAll m es)
  | .union ts => .union (Term.substAll m ts)
  | .tuple ts => .tuple (Ty.substAll m ts)

/-- Types, each with types in the place of type parameters. -/
def Ty.substAll (m : Substitution) : List Ty → List Ty
  | [] => []
  | t :: ts => Ty.subst m t :: Ty.substAll m ts

/-- Alternatives with types in the place of type parameters. -/
def Term.substAll (m : Substitution) : List Term → List Term
  | [] => []
  | .mk tilde t :: ts => .mk tilde (Ty.subst m t) :: Term.substAll m ts

/-- Type parameters whose constraints have types in the place of type parameters. -/
def TypeParam.substAll (m : Substitution) : List TypeParam → List TypeParam
  | [] => []
  | .mk id b :: ts => .mk id (Ty.subst m b) :: TypeParam.substAll m ts

/-- Fields with types in the place of type parameters. -/
def FieldTy.substAll (m : Substitution) : List FieldTy → List FieldTy
  | [] => []
  | .mk n p t e tag loc :: fs => .mk n p (Ty.subst m t) e tag loc :: FieldTy.substAll m fs

/-- A signature with types in the place of type parameters. -/
def Sig.subst (m : Substitution) : Sig → Sig
  | .mk ts ps rs v =>
    .mk (TypeParam.substAll m ts) (ParamTy.substAll m ps) (ParamTy.substAll m rs) v

/-- Parameters with types in the place of type parameters. -/
def ParamTy.substAll (m : Substitution) : List ParamTy → List ParamTy
  | [] => []
  | .mk n t :: ps => .mk n (Ty.subst m t) :: ParamTy.substAll m ps

/-- Methods with types in the place of type parameters. -/
def MethodTy.substAll (m : Substitution) : List MethodTy → List MethodTy
  | [] => []
  | .mk n p s :: ms => .mk n p (Sig.subst m s) :: MethodTy.substAll m ms

end

mutual

/-- **Whether a type mentions one of some type parameters.** -/
def Ty.isParameterized (ids : List TypeId) : Ty → Bool
  | .basic _ => false
  | .named _ args => Ty.anyParameterized ids args
  | .param id => ids.contains id
  | .renamed _ _ t => Ty.isParameterized ids t
  | .pointer t => Ty.isParameterized ids t
  | .slice t => Ty.isParameterized ids t
  | .array _ t => Ty.isParameterized ids t
  | .map k t => Ty.isParameterized ids k || Ty.isParameterized ids t
  | .chan _ t => Ty.isParameterized ids t
  | .struct fs => FieldTy.anyParameterized ids fs
  | .func s => Sig.isParameterized ids s
  | .iface ms es => MethodTy.anyParameterized ids ms || Ty.anyParameterized ids es
  | .union ts => Term.anyParameterized ids ts
  | .tuple ts => Ty.anyParameterized ids ts

/-- Whether one of several types mentions one of some type parameters. -/
def Ty.anyParameterized (ids : List TypeId) : List Ty → Bool
  | [] => false
  | t :: ts => Ty.isParameterized ids t || Ty.anyParameterized ids ts

/-- Whether an alternative mentions one of some type parameters. -/
def Term.anyParameterized (ids : List TypeId) : List Term → Bool
  | [] => false
  | .mk _ t :: ts => Ty.isParameterized ids t || Term.anyParameterized ids ts

/-- Whether a field mentions one of some type parameters. -/
def FieldTy.anyParameterized (ids : List TypeId) : List FieldTy → Bool
  | [] => false
  | .mk _ _ t _ _ _ :: fs => Ty.isParameterized ids t || FieldTy.anyParameterized ids fs

/-- Whether a signature mentions one of some type parameters. -/
def Sig.isParameterized (ids : List TypeId) : Sig → Bool
  | .mk _ ps rs _ => ParamTy.anyParameterized ids ps || ParamTy.anyParameterized ids rs

/-- Whether a parameter mentions one of some type parameters. -/
def ParamTy.anyParameterized (ids : List TypeId) : List ParamTy → Bool
  | [] => false
  | .mk _ t :: ps => Ty.isParameterized ids t || ParamTy.anyParameterized ids ps

/-- Whether a method mentions one of some type parameters. -/
def MethodTy.anyParameterized (ids : List TypeId) : List MethodTy → Bool
  | [] => false
  | .mk _ _ s :: ms => Sig.isParameterized ids s || MethodTy.anyParameterized ids ms

end

/-! ## Writing -/

/-- How a declared type's package is written in front of its name. -/
abbrev Qualifier := Bytes → Bytes

/-- A declared type. -/
def TypeId.render (q : Qualifier) (id : TypeId) : Bytes :=
  let pkg := if id.pkg.isEmpty then [] else q id.pkg
  if pkg.isEmpty then id.name else pkg ++ "." ++ id.name

/-- The names that mean something everywhere. -/
def universe_ : List String := ["any", "append", "bool", "byte", "cap", "clear", "close",
  "comparable", "complex", "complex128", "complex64", "copy", "delete", "error", "false",
  "float32", "float64", "imag", "int", "int16", "int32", "int64", "int8", "iota", "len", "make",
  "max", "min", "new", "nil", "panic", "print", "println", "real", "recover", "rune", "string",
  "true", "uint", "uint16", "uint32", "uint64", "uint8", "uintptr"]

/-- A type parameter. One that has the name of something predeclared is marked. -/
def TypeId.renderParam (id : TypeId) : Bytes :=
  if universe_.any fun n => Bytes.ofString n = id.name then id.name ++ "/* type parameter */"
  else id.name

mutual

/-- **A type as text.** -/
def Ty.render (q : Qualifier) : Ty → Bytes
  | .basic b => b.name
  | .named id args => id.render q ++ Ty.renderArgs q args
  | .param id => id.renderParam
  | .renamed id args _ => id.render q ++ Ty.renderArgs q args
  | .pointer t => "*" ++ Ty.render q t
  | .slice t => "[]" ++ Ty.render q t
  | .array n t => "[" ++ (match n with | some k => Bytes.ofNat k | none => []) ++ "]"
      ++ Ty.render q t
  | .map k t => "map[" ++ Ty.render q k ++ "]" ++ Ty.render q t
  | .chan d t =>
    let inner := Ty.render q t
    match d with
    | .send => "chan<- " ++ inner
    | .receive => "<-chan " ++ inner
    | .both => if startsWith inner "<-" then "chan (" ++ inner ++ ")" else "chan " ++ inner
  | .struct fs => "struct\x7b" ++ join "; " (FieldTy.renderAll q fs) ++ [rbrace]
  | .func s => "func" ++ Sig.render q true s
  | .iface ms es =>
    "interface\x7b" ++ join "; " (MethodTy.renderAll q ms ++ Ty.renderAll q es) ++ [rbrace]
  | .union ts => join " | " (Term.renderAll q ts)
  | .tuple ts => "(" ++ join ", " (Ty.renderAll q ts) ++ ")"

/-- Types, each on its own. -/
def Ty.renderAll (q : Qualifier) : List Ty → List Bytes
  | [] => []
  | t :: ts => Ty.render q t :: Ty.renderAll q ts

/-- Type arguments. -/
def Ty.renderArgs (q : Qualifier) : List Ty → Bytes
  | [] => []
  | t :: ts => "[" ++ join "," (Ty.render q t :: Ty.renderAll q ts) ++ "]"

/-- Alternatives, each on its own. -/
def Term.renderAll (q : Qualifier) : List Term → List Bytes
  | [] => []
  | .mk tilde t :: ts =>
    let mark : Bytes := if tilde then "~" else []
    (mark ++ Ty.render q t) :: Term.renderAll q ts

/-- Type parameters with their constraints. A constraint is written once for several
parameters in a row that have it. -/
def TypeParam.renderEach (q : Qualifier) : List TypeParam → List Bytes
  | [] => []
  | .mk id b :: ts =>
    let shared := match ts with
      | .mk _ c :: _ => Ty.same true b c
      | [] => false
    let bound := Ty.render q b
    (if shared then id.renderParam else id.renderParam ++ " " ++ bound) :: TypeParam.renderEach q ts

/-- Fields, each on its own. -/
def FieldTy.renderAll (q : Qualifier) : List FieldTy → List Bytes
  | [] => []
  | .mk n _ t e tag _ :: fs =>
    let body := Ty.render q t
    let name : Bytes := if e then [] else n ++ " "
    let note : Bytes := if tag.isEmpty then [] else " " ++ Quoted.quote tag
    (name ++ body ++ note) :: FieldTy.renderAll q fs

/-- Parameters and results, with or without names. -/
def Sig.render (q : Qualifier) (names : Bool) : Sig → Bytes
  | .mk ts ps rs v =>
    let types := TypeParam.renderEach q ts
    let generic : Bytes := if types.isEmpty then [] else "[" ++ join ", " types ++ "]"
    let params := generic ++ "(" ++ join ", " (ParamTy.renderAll q names v ps) ++ ")"
    match rs with
    | [] => params
    | [.mk n t] =>
      let body := Ty.render q t
      if n.isEmpty || !names then params ++ " " ++ body
      else params ++ " (" ++ n ++ " " ++ body ++ ")"
    | rs => params ++ " (" ++ join ", " (ParamTy.renderAll q names false rs) ++ ")"

/-- Parameters, each on its own; the last one takes further arguments if it is told to. -/
def ParamTy.renderAll (q : Qualifier) (names variadic : Bool) : List ParamTy → List Bytes
  | [] => []
  | .mk n t :: ps =>
    let body := Ty.render q t
    let dots : Bytes :=
      if variadic && ps.isEmpty then
        "..." ++ (match dropPrefix? "[]" body with | some e => e | none => body)
      else body
    (if n.isEmpty || !names then dots else n ++ " " ++ dots)
      :: ParamTy.renderAll q names variadic ps

/-- Methods, each on its own. -/
def MethodTy.renderAll (q : Qualifier) : List MethodTy → List Bytes
  | [] => []
  | .mk n _ s :: ms => (n ++ Sig.render q true s) :: MethodTy.renderAll q ms

end

/-- Type parameters between brackets. -/
def TypeParam.renderAll (q : Qualifier) (ts : List TypeParam) : Bytes :=
  "[" ++ join ", " (TypeParam.renderEach q ts) ++ "]"

end Stencil.Host
