import Stencil.Component
import Stencil.Host.Package

/-!
# What a package shows

From outside, a package shows its exported names and the types these need, down to the
types of unexported fields. Among the exported types, those whose pointer renders itself
into a buffer are components, and their fields are their parameters.
-/

namespace Stencil.Host

open Bytes

/-! ## Types that a type needs -/

mutual

/-- The declared types a type mentions. -/
def Ty.mentions : Ty → List TypeId
  | .basic _ => []
  | .named id args => id :: Ty.mentionsAll args
  | .param _ => []
  | .renamed id args t => id :: (Ty.mentionsAll args ++ Ty.mentions t)
  | .pointer t => Ty.mentions t
  | .slice t => Ty.mentions t
  | .array _ t => Ty.mentions t
  | .map k t => Ty.mentions k ++ Ty.mentions t
  | .chan _ t => Ty.mentions t
  | .struct fs => FieldTy.mentionsAll fs
  | .func s => Sig.mentions s
  | .iface ms es => MethodTy.mentionsAll ms ++ Ty.mentionsAll es
  | .union ts => Term.mentionsAll ts
  | .tuple ts => Ty.mentionsAll ts

/-- The declared types that alternatives mention. -/
def Term.mentionsAll : List Term → List TypeId
  | [] => []
  | .mk _ t :: ts => Ty.mentions t ++ Term.mentionsAll ts

/-- The declared types that the constraints of type parameters mention. -/
def TypeParam.mentionsAll : List TypeParam → List TypeId
  | [] => []
  | .mk _ b :: ts => Ty.mentions b ++ TypeParam.mentionsAll ts

/-- The declared types that types mention. -/
def Ty.mentionsAll : List Ty → List TypeId
  | [] => []
  | t :: ts => Ty.mentions t ++ Ty.mentionsAll ts

/-- The declared types that fields mention. -/
def FieldTy.mentionsAll : List FieldTy → List TypeId
  | [] => []
  | .mk _ _ t _ _ _ :: fs => Ty.mentions t ++ FieldTy.mentionsAll fs

/-- The declared types that parameters and results mention. -/
def Sig.mentions : Sig → List TypeId
  | .mk ts ps rs _ =>
    TypeParam.mentionsAll ts ++ ParamTy.mentionsAll ps ++ ParamTy.mentionsAll rs

/-- The declared types that parameters mention. -/
def ParamTy.mentionsAll : List ParamTy → List TypeId
  | [] => []
  | .mk _ t :: ps => Ty.mentions t ++ ParamTy.mentionsAll ps

/-- The declared types that methods mention. -/
def MethodTy.mentionsAll : List MethodTy → List TypeId
  | [] => []
  | .mk _ _ s :: ms => Sig.mentions s ++ MethodTy.mentionsAll ms

end

namespace Package

/-- The declared types a declared type needs. -/
def needs (p : Package) (id : TypeId) : List TypeId :=
  match p.types.info? id with
  | none => []
  | some i =>
    ((i.underlying.map Ty.mentions).getD []) ++ (i.methods.flatMap fun m => m.sig.mentions)
      ++ i.typeParams.flatMap fun t => (p.types.boundOf t).mentions

/-- The types reached from a list of types in at most `n` steps. -/
def reach (p : Package) : Nat → List TypeId → List TypeId → List TypeId
  | 0, seen, _ => seen
  | _, seen, [] => seen
  | n + 1, seen, id :: rest =>
    if seen.contains id then reach p n seen rest
    else reach p n (id :: seen) (p.needs id ++ rest)

/-- The declared types an object mentions. -/
def Object.mentions : Object → List TypeId
  | .const t _ => t.mentions
  | .var t => t.mentions
  | .func s => s.mentions
  | .type t => t.mentions

/-- **The package as its importers see it.** -/
def visible (p : Package) : Package :=
  let shown := p.objects.filter fun o => isExported o.1
  let start := shown.flatMap fun o => Object.mentions o.2
  let bound := start.length + (p.types.flatMap fun t => p.needs t.1).length + 1
  let needed := (p.reach bound [] start).filter fun id => id.pkg = p.path
  { p with objects := p.objects.filter fun o =>
      isExported o.1 || (match o.2 with
        | .type (.named id _) | .type (.renamed id _ _) => needed.contains id
        | _ => false) }

/-- The exported names, sorted. -/
def exportedNames (p : Package) : List Bytes :=
  Bytes.sort ((p.objects.map Prod.fst).filter isExported)

/-! ## Components -/

/-- Whether the pointer to a type renders itself into a buffer of the runtime. -/
def isComponent (p : Package) (w : TypeTable) (runtime : Bytes) (id : TypeId) : Bool :=
  match w.lookup (.pointer (.named id [])) false p.path "Render" false with
  | .found (.method m _ _) =>
    match m.sig.params, m.sig.results with
    | [a], [b] =>
      (match a.type with
        | .pointer (.named t _) => t.name = "Buffer" && t.pkg = runtime
        | _ => false) && b.type.identical .error
    | _, _ => false
  | _ => false

/-- **The components of a package.** Unexported fields count if the package itself is
asking. -/
def components (p : Package) (w : TypeTable) (runtime : Bytes) (fromInside : Bool) :
    List Component :=
  p.objects.filterMap fun (name, o) =>
    match o with
    | .type (.named id _) =>
      match w.under (.named id []) with
      | .struct fs =>
        if isExported name && p.isComponent w runtime id then
          let shown := fs.filter fun (f : FieldTy) =>
            !f.embedded && (fromInside || isExported f.name)
          let q : Qualifier := fun path => if path = p.path then [] else path
          some {
            name := name
            params := shown.map fun (f : FieldTy) =>
              { name := f.name, type := f.type.render q, text := w.basicIs Basic.isString f.type } }
        else none
      | _ => none
    | _ => none

end Package

end Stencil.Host
