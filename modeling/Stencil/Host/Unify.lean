import Stencil.Host.Package

/-!
# Finding out what type parameters stand for

Two types are unified by finding types for some type parameters that make them match. A
`Unifier` holds what is known so far: parameters that have to stand for the same type are in
one class, and a class may have a type.

How well types have to match is told by a `Fit`. If they need not match exactly, a declared
type matches the type under it, a channel matches one of another direction, and an interface
matches a type that has its methods. In an assignment this holds for the types themselves,
but not for their parts.
-/

namespace Stencil.Host

/-- **What is known about type parameters.** -/
structure Unifier where
  /-- The parameters and the class of each. -/
  classes : List (TypeId × Nat)
  /-- The types of classes. -/
  types : List (Nat × Ty) := []
  deriving Inhabited

/-- How well two types have to match. -/
structure Fit where
  /-- Whether one is assigned to the other. -/
  assign : Bool := false
  /-- Whether they have to match exactly. -/
  exact : Bool := false

/-- How well the parts of two types have to match. -/
def Fit.parts (f : Fit) : Fit := { f with exact := f.exact || f.assign }

namespace Unifier

/-- Parameters of which some are known. -/
def start (params : List (TypeId × Option Ty)) : Unifier where
  classes := params.zipIdx.map fun ((id, _), i) => (id, i)
  types := params.zipIdx.filterMap fun ((_, t), i) => t.map fun t => (i, t)

/-- The class of a parameter, if it is one of those that are looked for. -/
def class? (u : Unifier) (id : TypeId) : Option Nat :=
  (u.classes.find? fun c => c.1 = id).map Prod.snd

/-- The type of a class. -/
def typeOf? (u : Unifier) (c : Nat) : Option Ty := (u.types.find? fun t => t.1 = c).map Prod.snd

/-- What a parameter stands for, if that is known. -/
def at? (u : Unifier) (id : TypeId) : Option Ty := (u.class? id).bind u.typeOf?

/-- The parameter that a type is, if it is one of those that are looked for. -/
def param? (u : Unifier) (t : Ty) : Option TypeId :=
  match t.unrename with
  | .param id => if (u.class? id).isSome then some id else none
  | _ => none

/-- The unifier with a type for a parameter. -/
def set (u : Unifier) (id : TypeId) (t : Ty) : Unifier :=
  match u.class? id with
  | some c => { u with types := (c, t) :: u.types.filter fun e => e.1 ≠ c }
  | none => u

/-- The unifier with two parameters that stand for the same type, unless both are known. -/
def join (u : Unifier) (a b : TypeId) : Option Unifier :=
  match u.class? a, u.class? b with
  | some c, some d =>
    if c = d then some u
    else
      let move (old new : Nat) : Unifier :=
        { u with classes := u.classes.map fun e => if e.2 = old then (e.1, new) else e }
      match u.typeOf? c, u.typeOf? d with
      | some _, some _ => none
      | some _, none => some (move d c)
      | _, _ => some (move c d)
  | _, _ => some u

/-- How many parameters are not known. -/
def unknowns (u : Unifier) : Nat := u.classes.countP fun e => (u.typeOf? e.2).isNone

/-- What parameters stand for as far as that is known. -/
def known (u : Unifier) : Substitution :=
  u.classes.filterMap fun e => (u.typeOf? e.2).map fun t => (e.1, t)

/-- Whether a type was declared. -/
def isNamed (t : Ty) : Bool :=
  match t.unrename with
  | .named .. => true
  | _ => false

/-- Which of two types that match a parameter should stand for, the one found first or
another one: an interface, a declared type, or a channel of one direction. -/
def prefers (w : TypeTable) (found other : Ty) : Bool :=
  match w.isPlainInterface found, w.isPlainInterface other with
  | false, true => true
  | true, false => false
  | _, _ =>
    match w.under found, w.under other with
    | .chan .both _, .chan d _ => d ≠ .both && isNamed found = isNamed other
        || (isNamed other && !isNamed found)
    | _, _ => isNamed other && !isNamed found

/-- Whether a step succeeds for the pairs of two lists of one length. -/
def allPairs (step : α → β → StateM Unifier Bool) : List α → List β → StateM Unifier Bool
  | [], [] => return true
  | a :: as, b :: bs => do
    if ← step a b then allPairs step as bs else return false
  | _, _ => return false

/-- **Makes two types match**, to a depth. -/
def unify (w : TypeTable) : Nat → Fit → Ty → Ty → StateM Unifier Bool
  | 0, _, _, _ => return false
  | n + 1, fit, x, y => do
    if x.identical y then return true
    let u ← get
    -- a declared type goes to the right and a parameter to the left
    let (x, y) := if isNamed x || (u.param? y).isSome then (y, x) else (x, y)
    let literal := !isNamed x && !x.isParam
    let y := if !fit.exact && isNamed y && literal && !w.isInterface x then w.under y else y
    if x.identical y then return true
    match u.param? x, u.param? y with
    | some a, some b =>
      match u.join a b with
      | some u =>
        MonadState.set u
        return true
      | none => unify w n fit ((u.at? a).getD .invalid) ((u.at? b).getD .invalid)
    | some a, none =>
      match u.at? a with
      | none =>
        MonadState.set (u.set a y)
        return true
      | some found =>
        if !(← unify w n fit found y) then return false
        if !fit.exact && prefers w found y then modify fun u => u.set a y
        return true
    | _, _ =>
      let sigs (s t : Sig) : StateM Unifier Bool := unify w n { exact := true } (.func s) (.func t)
      if !fit.exact && (w.isPlainInterface x || w.isPlainInterface y) then
        if w.isPlainInterface x && w.isPlainInterface y then
          let (a, b) := (w.typeSet x, w.typeSet y)
          let sameTerms := match a.terms, b.terms with
            | none, none => true
            | some ts, some us => ts.all (fun t => us.any (w.within t ·))
                && us.all fun t => ts.any (w.within t ·)
            | _, _ => false
          if a.comparable != b.comparable || !sameTerms then return false
          let (ms, ns) := (w.methodsOf x, w.methodsOf y)
          let (few, many) := if ns.length < ms.length then (ns, ms) else (ms, ns)
          few.allM fun m =>
            match many.find? fun o => sameName m.name m.pkg o.name o.pkg with
            | some o => sigs m.sig o.sig
            | none => return false
        else
          let (i, t) := if w.isPlainInterface x then (x, y) else (y, x)
          (w.methodsOf i).allM fun m =>
            match w.lookup t false m.pkg m.name false with
            | .found (.method f _ _) => sigs m.sig f.sig
            | _ => return false
      else
        let (x, y) := if y.isParam then (y, x) else (x, y)
        let inner := unify w n fit.parts
        let params (ps qs : List ParamTy) : StateM Unifier Bool :=
          allPairs (fun (p q : ParamTy) => inner p.type q.type) ps qs
        match x.unrename, y.unrename with
        | .basic a, .basic b => return a.canonical = b.canonical
        | .array l a, .array m b =>
          if l = m || l.isNone || m.isNone then inner a b else return false
        | .slice a, .slice b => inner a b
        | .pointer a, .pointer b => inner a b
        | .map k a, .map l b => if ← inner k l then inner a b else return false
        | .chan d a, .chan e b => if !fit.exact || d = e then inner a b else return false
        | .struct fs, .struct gs =>
          allPairs (fun (f g : FieldTy) =>
            match f, g with
            | .mk n p t e tag _, .mk n' p' t' e' tag' _ =>
              if e = e' && tag = tag' && sameName n p n' p' then inner t t' else return false) fs gs
        | .func (.mk _ ps rs v), .func (.mk _ ps' rs' v') =>
          if v = v' then
            if ← params ps ps' then params rs rs' else return false
          else return false
        | .iface ms es, .iface ns fs =>
          if ms.length ≠ ns.length then return false
          let methods ← ms.allM fun m =>
            match ns.find? fun o => sameName m.name m.pkg o.name o.pkg with
            | some o => sigs m.sig o.sig
            | none => return false
          if methods then allPairs inner es fs else return false
        | .named i as, .named j bs =>
          if ← allPairs (unify w n fit) as bs then return i = j else return false
        | .param _, _ =>
          match w.common? x with
          | some c => unify w n { assign := true } c y
          | none => return false
        | _, _ => return false

end Unifier

end Stencil.Host
