import Stencil.Host.Check.Infer

/-!
# Instances without end

A use of a generic declaration gives types to its type parameters, and these types may
mention the type parameters of the declaration that the use stands in. So types flow from
parameters to parameters. A flow that puts a type into a larger one makes it grow, and if
types can grow along a ring of flows, a program would need instances without end.

A type that is declared in a generic function counts as one that grows out of the type
parameters of the function.

The heaviest path to each parameter is found by relaxing all flows until nothing changes.
A path that has as many steps as there are parameters runs through a ring.
-/

namespace Stencil.Host

mutual

/-- The declared types and type parameters that a type is made of. -/
def Ty.parts : Ty → List Ty
  | .basic _ => []
  | .named id args => .named id args :: Ty.partsAll args
  | .param id => [.param id]
  | .renamed _ _ t => Ty.parts t
  | .pointer t => Ty.parts t
  | .slice t => Ty.parts t
  | .array _ t => Ty.parts t
  | .map k t => Ty.parts k ++ Ty.parts t
  | .chan _ t => Ty.parts t
  | .struct fs => FieldTy.partsAll fs
  | .func s => Sig.parts s
  | .iface ms es => MethodTy.partsAll ms ++ Ty.partsAll es
  | .union ts => Term.partsAll ts
  | .tuple ts => Ty.partsAll ts

/-- Those of several types. -/
def Ty.partsAll : List Ty → List Ty
  | [] => []
  | t :: ts => Ty.parts t ++ Ty.partsAll ts

/-- Those of alternatives. -/
def Term.partsAll : List Term → List Ty
  | [] => []
  | .mk _ t :: ts => Ty.parts t ++ Term.partsAll ts

/-- Those of the types of fields. -/
def FieldTy.partsAll : List FieldTy → List Ty
  | [] => []
  | .mk _ _ t _ _ _ :: fs => Ty.parts t ++ FieldTy.partsAll fs

/-- Those of a signature. -/
def Sig.parts : Sig → List Ty
  | .mk _ ps rs _ => ParamTy.partsAll ps ++ ParamTy.partsAll rs

/-- Those of the types of parameters. -/
def ParamTy.partsAll : List ParamTy → List Ty
  | [] => []
  | .mk _ t :: ps => Ty.parts t ++ ParamTy.partsAll ps

/-- Those of methods. -/
def MethodTy.partsAll : List MethodTy → List Ty
  | [] => []
  | .mk _ _ s :: ms => Sig.parts s ++ MethodTy.partsAll ms

end

namespace Check

/-- A way for types to get from one type parameter to another. -/
structure Flow where
  /-- Where types get to. -/
  target : TypeId
  /-- Where they come from. -/
  source : TypeId
  /-- Whether they become part of a larger type on the way. -/
  grows : Bool
  /-- Where that is written. -/
  loc : Loc
  /-- What the target then stands for. -/
  type : Ty
  deriving Inhabited

/-- The heaviest path to a type parameter that is known. -/
structure Reach where
  /-- How often types grow along it. -/
  weight : Nat := 0
  /-- The number of its flows. -/
  length : Nat := 0
  /-- Its last flow. -/
  last : Option Flow := none

/-- The heaviest paths that are known. -/
abbrev Reaches := List (TypeId × Reach)

/-- The heaviest known path to a type parameter. -/
def Reaches.to_ (m : Reaches) (id : TypeId) : Reach :=
  ((m.find? fun e => e.1 = id).map Prod.snd).getD {}

/-- Lets a flow make the path to its target heavier, if it does. A path of `size` flows is
given back as a failure. -/
def Reaches.relax (size : Nat) (m : Reaches × Bool) (f : Flow) :
    Except (TypeId × Reaches) (Reaches × Bool) :=
  let source := m.1.to_ f.source
  let weight := source.weight + (if f.grows then 1 else 0)
  if weight ≤ (m.1.to_ f.target).weight then .ok m
  else
    let found : Reach := ⟨weight, source.length + 1, some f⟩
    let known := (f.target, found) :: m.1.filter fun e => e.1 ≠ f.target
    if found.length = size then .error (f.target, known) else .ok (known, true)

/-- A type parameter at the end of a path that runs through a ring, with all paths, if there
is one. Weights are below `size`, so `size * size` rounds are enough. -/
def Reaches.endless? (size : Nat) (flows : List Flow) : Nat → Reaches → Option (TypeId × Reaches)
  | 0, _ => none
  | n + 1, m =>
    match flows.foldlM (Reaches.relax size) (m, false) with
    | .error found => some found
    | .ok (m, true) => endless? size flows n m
    | .ok (_, false) => none

/-- The ring that the path to a type parameter runs through, walked backwards. -/
def Reaches.ring (m : Reaches) : Nat → List TypeId → TypeId → List TypeId
  | 0, seen, _ => seen
  | n + 1, seen, id =>
    if seen.contains id then seen.dropWhile (· ≠ id)
    else
      match (m.to_ id).last with
      | some f => ring m n (seen ++ [id]) f.source
      | none => seen ++ [id]

/-- The flows of one type argument, with the types of functions that are known before. -/
def flowsOf (s : State) (same : TypeId → TypeId) (known : List TypeId) (a : Assigned) :
    List Flow × List TypeId :=
  if a.param.pkg ≠ s.path then ([], known)
  else
    let flow (source : TypeId) (t : Ty) : Flow := {
      target := same a.param, source := source, grows := !t.identical a.type
      loc := a.loc, type := a.type }
    (Ty.parts a.type).foldl (fun (out, known) t =>
      match t with
      | .param id => (out ++ [flow (same id) t], known)
      | .named id _ =>
        match s.ambient.find? fun e => e.id = id with
        | none => (out, known)
        | some e =>
          let implicit : List Flow := if known.contains id then [] else e.params.map fun p =>
            { target := id, source := same p, grows := true, loc := e.loc, type := .param p }
          (out ++ implicit ++ [flow id t], id :: known)
      | _ => (out, known)) ([], known)

/-- The type parameter of a declared type that one of the receiver of a method stands for. -/
def receiverParam (s : State) (id : TypeId) : TypeId :=
  let found := s.methods.findSome? fun (t, ms) => do
    let base ← match (s.objs[t]?).bind Obj.type with
      | some (.named b _) => some ((s.types.typeParamsOf b).map TypeParam.id)
      | _ => none
    ms.findSome? fun m =>
      let own := ((s.objs[m]?).map Obj.receiverParams).getD []
      ((own.zip base).find? fun e => e.1 = id).map Prod.snd
  found.getD id

/-- **Reports instances without end.** -/
def instanceCycles : CheckM Unit := do
  let s ← get
  let (flows, _) := s.assigned.reverse.foldl (fun (out, known) a =>
    let (more, known) := flowsOf s (receiverParam s) known a
    (out ++ more, known)) (([], []) : List Flow × List TypeId)
  let size := (flows.flatMap fun f => [f.target, f.source]).eraseDups.length
  match Reaches.endless? size flows (size * size + 1) [] with
  | none => return ()
  | some (id, m) =>
    let ring := m.ring (size + 1) [] id
    let place (id : TypeId) : Loc :=
      match s.ambient.find? fun e => e.id = id with
      | some e => e.loc
      | none => ((s.types.info? id).map TypeInfo.loc).getD {}
    let byPath : Qualifier := fun p => if p = s.path then [] else p
    let notes := ring.filterMap fun v => (m.to_ v).last.map fun f =>
      let how : Bytes := if s.ambient.any fun e => e.id = v then " implicitly parameterized by "
        else " instantiated as "
      (f.loc, v.name ++ how ++ s.types.render byPath f.type)
    match ring with
    | v :: _ => reportAll (place v) "instantiation cycle" notes
    | [] => return ()

end Check

end Stencil.Host
