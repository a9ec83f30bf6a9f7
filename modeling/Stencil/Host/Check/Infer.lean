import Stencil.Host.Check.Convert
import Stencil.Host.Unify

/-!
# Type arguments

A generic function is used with a type for each of its type parameters. Those that are not
written are inferred: first from the arguments that have a type, then from the constraints,
as long as these tell more, and last from constants that have no type yet.

That type arguments satisfy the constraints is checked later, when all types are complete.
-/

namespace Stencil.Host.Check

open Bytes

/-- New type parameters in the place of others, so that a function that calls itself does
not confuse its own with those of the call. -/
def renameParams (ps : List TypeParam) : CheckM (List TypeParam × Substitution) := do
  let mut m : List (TypeId × TypeId) := []
  for p in ps do m := m ++ [(p.id, ← newTypeId p.id.name)]
  let subst : Substitution := m.map fun (a, b) => (a, .param b)
  let fresh := (ps.zip m).map fun (p, e) => TypeParam.mk e.2 (p.bound.subst subst)
  let w ← table
  let entries : TypeTable := (ps.zip fresh).map fun (p, f) =>
    (f.id, { underlying := some f.bound, loc := ((w.info? p.id).map TypeInfo.loc).getD {} })
  modify fun s => { s with types := entries ++ s.types }
  return (fresh, subst)

/-- Forgets type parameters that were only needed on the way. -/
def forgetParams (ps : List TypeParam) : CheckM Unit :=
  modify fun s => { s with types := s.types.filter fun e => !ps.any fun p => p.id = e.1 }

/-- The names of type parameters in a sentence. -/
def paramNames (ps : List TypeParam) : Bytes :=
  let names := ps.map fun p => p.id.name
  match names with
  | [a, b] => a ++ " and " ++ b
  | names =>
    match names.getLast? with
    | none => []
    | some last =>
      if names.length = 1 then last else join ", " names.dropLast ++ ", and " ++ last

/-- **An instance of a signature.** That the types satisfy the constraints is checked later,
and told at the place of the instance, or at that of the type argument if it is written. -/
def instantiateSig (at_ : Place) (sig : Sig) (types : List Ty) (written : List Place) :
    CheckM Sig := do
  later (.arguments (← problemLoc at_) sig.typeParams types (← written.mapM problemLoc))
  let s := sig.subst ((sig.typeParams.map TypeParam.id).zip types)
  return .mk [] s.params s.results s.variadic

/-- A failure to infer types: where it is told and why, if that has not been told before. -/
abbrev InferError := Option (Place × Bytes)

section

variable (r : Unit → Rules)

/-- How deep types are unified. -/
def unifyDepth : Nat := 100

/-- Why the type of an argument does not match its parameter. -/
def mismatch (u : Unifier) (ps : List TypeParam) (param : Ty) (arg : Operand) (reverse : Bool) :
    CheckM Bytes := do
  let shown ← showType arg.type
  let given := arg.expr.render
  let type ← showType param
  if u.known.isEmpty then
    return "type " ++ shown ++ " of " ++ given ++ " does not match " ++ type ++ " (cannot infer "
      ++ paramNames ps ++ ")"
  let inferred := param.subst u.known
  if inferred.identical param then
    return "type " ++ shown ++ " of " ++ given ++ " does not match " ++ type
  if reverse then
    return "inferred type " ++ (← showType inferred) ++ " for " ++ type ++ " does not match type "
      ++ shown ++ " of " ++ given
  return "type " ++ shown ++ " of " ++ given ++ " does not match inferred type "
    ++ (← showType inferred) ++ " for " ++ type

/-- The type that all types of a type parameter have under them, whether it is the only type,
and whether other types with it under them are allowed. -/
def coreTerm (w : TypeTable) (t : Ty) : Option (Term × Bool) :=
  match w.termsOf? t with
  | some [a] => some (a, true)
  | some ts => (w.common? t).map fun c => (.mk (ts.any Term.tilde) c, false)
  | none => none

/-- Learns from the constraints of type parameters, one after another. -/
def unifyConstraints (at_ : Place) (ids : List TypeId) :
    List TypeParam → Unifier → CheckM (Except InferError Unifier)
  | [], u => return .ok u
  | p :: ps, u => do
    let self : Ty := .param p.id
    let fail (t : Ty) (why : Bytes) : CheckM (Except InferError Unifier) := do
      return .error (some (at_, (← showType self) ++ " (type " ++ (← showType t)
        ++ ") does not satisfy " ++ (← showType p.bound) ++ why))
    let w ← table
    let known := u.at? p.id
    let (matched, u) := match coreTerm w self, known with
      | some (core, _), some t => (Unifier.unify w unifyDepth {} t core.type).run u
      | some (core, true), none => (true, if core.tilde then u else u.set p.id core.type)
      | _, none | none, _ => (true, u)
    match known with
    | none => unifyConstraints at_ ids ps u
    | some t =>
      if !matched then return ← fail t []
      if t.isParameterized ids then unifyConstraints at_ ids ps u
      else
        ensureMethods r 4 t
        let w ← table
        let same (a b : Sig) : StateM Unifier Bool :=
          Unifier.unify w unifyDepth { exact := true } (.func a) (.func b)
        let (lack, u) := (w.lacksBy same t self).run u
        match lack with
        | some l => fail t (" " ++ (← showLack t l))
        | none => unifyConstraints at_ ids ps u

/-- Learns from constraints as long as that makes more parameters known, at most `n`
times. -/
def unifyAllConstraints (at_ : Place) (ids : List TypeId) (ps : List TypeParam) :
    Nat → Unifier → CheckM (Except InferError Unifier)
  | 0, u => return .ok u
  | n + 1, u => do
    match ← unifyConstraints r at_ ids ps u with
    | .error e => return .error e
    | .ok u' =>
      if u'.unknowns = u.unknowns then return .ok u' else unifyAllConstraints at_ ids ps n u'

/-- The larger of two types of constants that have no type yet. -/
def largerType (a b : Ty) : Option Ty :=
  match a, b with
  | .basic x, .basic y =>
    if x = y then some a
    else if 0 < x.rank && 0 < y.rank then some (if x.rank < y.rank then b else a)
    else none
  | _, _ => none

/-- Learns from constants that have no type yet: a parameter stands for the type of the
largest of them. -/
def unifyConstants (u : Unifier) (pairs : List (TypeId × Operand)) :
    CheckM (Except InferError Unifier) := do
  let mut largest : List (TypeId × Ty) := []
  for (id, arg) in pairs do
    if (u.at? id).isNone then
      match largest.find? fun e => e.1 = id with
      | none => largest := largest ++ [(id, arg.type)]
      | some (_, t) =>
        match largerType t arg.type with
        | some m => largest := largest.map fun e => if e.1 = id then (id, m) else e
        | none =>
          return .error (some (arg.pos, "mismatched types " ++ (← showType t) ++ " and "
            ++ (← showType arg.type) ++ " (cannot infer " ++ id.name ++ ")"))
  return .ok (largest.foldl (fun u (id, t) => u.set id t.settled) u)

/-- Types with the other inferred types in the place of parameters, at most `n` times. -/
def simplify (ids : List TypeId) : Nat → Substitution → Substitution
  | 0, m => m
  | n + 1, m =>
    if m.any fun e => e.2.isParameterized ids then
      simplify ids n (m.map fun e => (e.1, e.2.subst m))
    else m

/-- **Infers type arguments** for type parameters, of which some may be given, from the
arguments for parameters. With `reverse` the arguments are what the function is used as. -/
def infer (at_ : Place) (ps : List TypeParam) (given : List (Option Ty)) (params : List Ty)
    (args : List Operand) (reverse : Bool) : CheckM (Except InferError (List Ty)) := do
  let ids := ps.map TypeParam.id
  let all := given ++ List.replicate (ps.length - given.length) none
  if all.all Option.isSome then return .ok (all.filterMap id)
  if args.any fun a => !a.ok then return .error none
  let start := ids.zip all
  let subst : Substitution := start.filterMap fun (i, t) => t.map fun t => (i, t)
  let params := params.map (Ty.subst subst)
  for a in args do ensureMethods r 4 a.type
  let w ← table
  let mut u := Unifier.start start
  let mut untyped : List (TypeId × Operand) := []
  for (p, a) in params.zip args do
    if p.isParameterized ids || a.type.isParameterized ids then
      if !a.type.isUntyped then
        let (matched, u') := (Unifier.unify w unifyDepth { assign := true } p a.type).run u
        if !matched then return .error (some (a.pos, ← mismatch u' ps p a reverse))
        u := u'
      else if !a.isNil then
        match p with
        | .param id => untyped := untyped ++ [(id, a)]
        | _ => pure ()
  match ← unifyAllConstraints r at_ ids ps (ps.length + 1) u with
  | .error e => return .error e
  | .ok learnt =>
    match ← unifyConstants learnt untyped with
    | .error e => return .error e
    | .ok settled =>
      let found := simplify ids (ps.length + 1) settled.known
      let mut out : List Ty := []
      for p in ps do
        match found.find? fun e => e.1 = p.id with
        | some (_, t) =>
          if !t.isParameterized ids then
            out := out ++ [t]
            continue
        | none => pure ()
        let loc := (((← table).info? p.id).map TypeInfo.loc).getD {}
        return .error (some (at_, "cannot infer " ++ p.id.name ++ " (declared at "
          ++ (← showLoc loc) ++ ")"))
      return .ok out

/-! ## Checking type arguments -/

/-- The first type argument that does not satisfy its constraint, and why. -/
def verify (ps : List TypeParam) (types : List Ty) : CheckM (Option (Nat × Bytes)) := do
  let subst : Substitution := (ps.map TypeParam.id).zip types
  for ((p, t), i) in (ps.zip types).zipIdx do
    let (yes, why) ← meets r t (p.bound.subst subst) true
    if !yes then return some (i, why)
  return none

/-- Checks the type arguments of a function. -/
def checkArguments (loc : Loc) (ps : List TypeParam) (types : List Ty) (written : List Loc) :
    CheckM Unit := do
  match ← verify r ps types with
  | some (i, why) => reportAll (written[i]?.getD loc) why [] true
  | none =>
    let found := (ps.zip types).zipIdx.map fun ((p, t), i) =>
      ({ param := p.id, type := t, loc := written[i]?.getD loc } : Assigned)
    modify fun s => { s with assigned := found.reverse ++ s.assigned }

/-- Checks the number of type arguments of a declared type. -/
def rightCount (loc : Loc) (name : Bytes) (want have_ : Nat) : CheckM Bool := do
  if want = have_ then return true
  let what : Bytes := if have_ < want then "not enough" else "too many"
  reportAt loc (what ++ " type arguments for type " ++ name ++ ": have " ++ Bytes.ofNat have_
    ++ ", want " ++ Bytes.ofNat want)
  return false

/-- Checks the type arguments of a declared type. -/
def checkInstance (loc : Loc) (id : TypeId) (args : List (Ty × Loc)) : CheckM Unit := do
  let ps := (← table).typeParamsOf id
  if ← rightCount loc id.name ps.length args.length then
    checkArguments r loc ps (args.map Prod.fst) (args.map Prod.snd)

/-- Checks that variables can have a type: an interface that is more than its methods is a
constraint. -/
def checkVarType (loc : Loc) (t : Ty) : CheckM Unit := do
  let w ← table
  if w.isPlainInterface t then
    let s := w.typeSet t
    let head := "cannot use type " ++ (← showType t) ++ " outside a type constraint: interface "
    if s.isMethodSet then return
    else if s.comparable then reportAll loc (head ++ "is (or embeds) comparable") [] true
    else reportAll loc (head ++ "contains type constraints") [] true

/-- Checks the alternatives of a constraint. -/
def checkUnion (terms : List (Term × Loc)) : CheckM Unit := do
  let w ← table
  let show_ (a : Term) : CheckM Bytes := do
    return (if a.tilde then Bytes.ofString "~" else []) ++ (← showType a.type)
  let mut seen : List Term := []
  for (a, loc) in terms do
    let u := w.under a.type
    let shown ← show_ a
    if a.type.isInvalid then pure ()
    else if a.tilde && w.isInterface a.type then
      reportAt loc ("invalid use of ~ (" ++ (← showType a.type) ++ " is an interface)")
    else if a.tilde && !u.identical a.type then
      reportAt loc ("invalid use of ~ (underlying type of " ++ (← showType a.type) ++ " is "
        ++ (← showType u) ++ ")")
    else if w.isInterface a.type then
      let isComparable : Bool := match a.type.unrename with
        | .named id _ => id = comparableId
        | _ => false
      if !(w.methodsOf a.type).isEmpty then
        reportAt loc ("cannot use " ++ shown ++ " in union (" ++ shown ++ " contains methods)")
      else if isComparable then reportAt loc "cannot use comparable in union"
      else if (w.typeSet a.type).comparable then
        reportAt loc ("cannot use " ++ shown ++ " in union (" ++ shown ++ " embeds comparable)")
    else
      match seen.find? fun (b : Term) => !w.isInterface b.type && !w.disjoint b a with
      | some b =>
        reportAll loc ("overlapping terms " ++ shown ++ " and " ++ (← show_ b)) [] true
      | none => pure ()
    seen := seen ++ [a]

end

end Stencil.Host.Check
