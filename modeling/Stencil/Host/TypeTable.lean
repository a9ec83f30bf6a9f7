import Stencil.Host.Type

/-!
# What declared types stand for

A `TypeTable` says what each declared type is declared as, which type parameters and which
methods it has. A type parameter is in the table as well, with its constraint.

The type under a type is what is left when all names are resolved: for a declared type with
arguments, what it is declared as with the arguments in the place of its parameters, and
for a type parameter the interface that its constraint is.
-/

namespace Stencil.Host

open Bytes

/-- A method of a declared type. -/
structure Method where
  /-- The name. -/
  name : Bytes
  /-- The package. -/
  pkg : Bytes
  /-- Whether the receiver is a pointer. -/
  pointer : Bool
  /-- Parameters and results. -/
  sig : Sig
  /-- The number of its declaration, while its package is being checked. -/
  decl : Option Nat := none
  /-- Where it is declared. -/
  loc : Loc := {}
  /-- The name of its receiver. -/
  receiver : Bytes := []
  /-- The names its receiver gives to the type parameters. -/
  typeParams : List TypeId := []
  /-- The type arguments of the receiver, where the method is used. -/
  args : List Ty := []
  deriving Inhabited

/-- What a declared type stands for. -/
structure TypeInfo where
  /-- The type it is declared as, none while that is being found out; for a type parameter
  the constraint. -/
  underlying : Option Ty
  /-- Its methods. -/
  methods : List Method := []
  /-- Its type parameters. -/
  typeParams : List TypeId := []
  /-- Where a type parameter is declared. -/
  loc : Loc := {}
  deriving Inhabited

/-- What declared types stand for. -/
abbrev TypeTable := List (TypeId × TypeInfo)

/-- The predeclared constraint of all types whose values can be compared. -/
def comparableId : TypeId := ⟨[], "comparable", 0⟩

namespace TypeTable

/-- The predeclared types that are not basic. -/
def predeclared : TypeTable :=
  let errorMethod : MethodTy := .mk "Error" [] (.mk [] [] [.mk [] (.basic .string)] false)
  [(⟨[], "error", 0⟩, { underlying := some (.iface [errorMethod] []) }),
    (comparableId, { underlying := some (.iface [] [.named comparableId []]) })]

/-- What is known about a declared type. -/
def info? (w : TypeTable) (id : TypeId) : Option TypeInfo :=
  (List.find? (fun e => e.1 = id) w).map Prod.snd

/-- The table with the information about one type changed. -/
def update (w : TypeTable) (id : TypeId) (f : TypeInfo → TypeInfo) : TypeTable :=
  List.map (fun e => if e.1 = id then (e.1, f e.2) else e) w

/-- How deep types are looked into. -/
def depth : Nat := 64

/-- What a declared type is declared as, for its type arguments. The number of arguments
has to be right. -/
def expand (i : TypeInfo) (args : List Ty) : Ty :=
  let t := i.underlying.getD .invalid
  if i.typeParams.isEmpty || args.isEmpty then t
  else if i.typeParams.length ≠ args.length then .invalid
  else t.subst (i.typeParams.zip args)

/-- The type under a type, following at most `n` names. -/
def underTo (w : TypeTable) : Nat → Ty → Ty
  | 0, _ => .invalid
  | n + 1, t =>
    match t.unrename with
    | .named id args =>
      match w.info? id with
      | some i => underTo w n (expand i args)
      | none => .invalid
    | .param id =>
      let bound := ((w.info? id).bind TypeInfo.underlying).getD .invalid
      if bound.isParam then .iface [] []
      else
        match underTo w n bound with
        | .iface ms es => .iface ms es
        | .basic .invalid => .iface [] []
        | _ => .iface [] [bound]
    | t => t

/-- **The type under a type**: without names. -/
def under (w : TypeTable) (t : Ty) : Ty := w.underTo depth t

/-- The constraint of a type parameter as it is written. -/
def boundOf (w : TypeTable) (id : TypeId) : Ty :=
  ((w.info? id).bind TypeInfo.underlying).getD .invalid

/-- The type parameters of a declared type with their constraints. -/
def typeParamsOf (w : TypeTable) (id : TypeId) : List TypeParam :=
  (((w.info? id).map TypeInfo.typeParams).getD []).map fun p => .mk p (w.boundOf p)

/-- Whether a type has to be given type arguments before it is one. -/
def isGeneric (w : TypeTable) (t : Ty) : Bool :=
  let lacksArgs (id : TypeId) (args : List Ty) : Bool :=
    args.isEmpty && !(((w.info? id).map TypeInfo.typeParams).getD []).isEmpty
  match t with
  | .renamed id args target =>
    lacksArgs id args || (match target.unrename with
      | .named id args => lacksArgs id args
      | _ => false)
  | .named id args => lacksArgs id args
  | _ => false

/-- A type as text. One that has to be given type arguments is shown with its type
parameters. -/
def render (w : TypeTable) (q : Qualifier) (t : Ty) : Bytes :=
  let params (id : TypeId) (args : List Ty) : Bytes :=
    let ps := w.typeParamsOf id
    if args.isEmpty && !ps.isEmpty then TypeParam.renderAll q ps else []
  match t with
  | .named id args | .renamed id args _ => t.render q ++ params id args
  | t => t.render q

/-- Whether a type is an interface; a type parameter counts as one. -/
def isInterface (w : TypeTable) (t : Ty) : Bool :=
  match w.under t with
  | .iface .. => true
  | _ => false

/-- The methods of an interface with those of the types embedded in it, to a depth. -/
def interfaceMethods (w : TypeTable) : Nat → Ty → List MethodTy
  | 0, _ => []
  | n + 1, t =>
    match w.under t with
    | .iface ms es => ms ++ es.flatMap fun e =>
      match e with
      | .named id _ => if id = comparableId then [] else interfaceMethods w n e
      | e => interfaceMethods w n e
    | _ => []

/-- The methods an interface asks for, by name. -/
def methodsOf (w : TypeTable) (t : Ty) : List MethodTy :=
  (w.interfaceMethods depth t).mergeSort fun a b => Bytes.le a.name b.name

end TypeTable

end Stencil.Host
