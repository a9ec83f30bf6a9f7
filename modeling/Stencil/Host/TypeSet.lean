import Stencil.Host.TypeTable

/-!
# Type sets

A constraint allows some types: all of them, or those of a list of terms, where a term is
one type or all types that have it under them. The type set of an interface is the
intersection of the sets of what is embedded in it, and the one of a union is the union of
the sets of its terms. An interface may also ask that values can be compared, which matters
only as long as all types are allowed: afterwards the terms say it themselves.

For a type that is no type parameter, `TypeTable.specific` is the type itself, so what has
to hold of all types a value can have is said once for both cases.
-/

namespace Stencil.Host

open Bytes

/-- **The types that a constraint allows.** -/
structure TypeSet where
  /-- The terms, none if all types are allowed. -/
  terms : Option (List Term) := none
  /-- Whether values have to be comparable; then all types are allowed otherwise. -/
  comparable : Bool := false
  deriving Inhabited

namespace TypeSet

/-- Whether only methods are asked for. -/
def isMethodSet (s : TypeSet) : Bool := s.terms.isNone && !s.comparable

/-- Whether no type is allowed. -/
def isEmpty (s : TypeSet) : Bool :=
  match s.terms with
  | some [] => true
  | _ => false

/-- The terms, if there are any. -/
def specific? (s : TypeSet) : Option (List Term) :=
  match s.terms with
  | some (t :: ts) => some (t :: ts)
  | _ => none

end TypeSet

namespace TypeTable

/-! ## Terms -/

/-- Whether two terms have no type in common. -/
def disjoint (w : TypeTable) (a b : Term) : Bool :=
  let x := if b.tilde then w.under a.type else a.type
  let y := if a.tilde then w.under b.type else b.type
  !x.identical y

/-- Whether a type is one of a term. -/
def includes (w : TypeTable) (a : Term) (t : Ty) : Bool :=
  a.type.identical (if a.tilde then w.under t else t)

/-- Whether all types of a term are types of another one. -/
def within (w : TypeTable) (a b : Term) : Bool :=
  !w.disjoint a b && (!a.tilde || b.tilde)

/-- One term joined with those that it shares types with, and the other ones. -/
def absorb (w : TypeTable) (a : Term) (rest : List Term) : Term × List Term :=
  rest.foldl (fun (a, others) b =>
    if w.disjoint a b then (a, others ++ [b]) else (if b.tilde then b else a, others)) (a, [])

/-- At most `n` terms of a list, without those that another one covers. -/
def normalizeTo (w : TypeTable) : Nat → List Term → List Term
  | 0, _ | _, [] => []
  | n + 1, a :: rest =>
    let (a, others) := w.absorb a rest
    a :: normalizeTo w n others

/-- The terms without those that another one covers. -/
def normalize (w : TypeTable) (ts : List Term) : List Term := w.normalizeTo ts.length ts

/-- The terms of either list. -/
def joinTerms (w : TypeTable) : Option (List Term) → Option (List Term) → Option (List Term)
  | some xs, some ys => some (w.normalize (xs ++ ys))
  | _, _ => none

/-- The terms of both lists. -/
def meetTerms (w : TypeTable) : Option (List Term) → Option (List Term) → Option (List Term)
  | none, ys => ys
  | xs, none => xs
  | some xs, some ys =>
    some (w.normalize (xs.flatMap fun x => ys.filterMap fun y =>
      if w.disjoint x y then none else some (if x.tilde then y else x)))

/-! ## Sets -/

mutual

/-- Whether values of a type can be compared, looking into parts to a depth. Interfaces can
be compared if `dynamic` is set. -/
def comparableTo (w : TypeTable) (dynamic : Bool) : Nat → Ty → Bool
  | 0, _ => true
  | n + 1, t =>
    match w.under t with
    | .basic b => b ≠ .untypedNil
    | .pointer _ | .chan .. => true
    | .struct fs => fs.all fun f => comparableTo w dynamic n f.type
    | .array _ e => comparableTo w dynamic n e
    | .iface .. =>
      (dynamic && !t.isParam) ||
        let s := typeSetTo w n t
        match s.terms with
        | none => s.comparable
        | some ts => !ts.isEmpty && ts.all fun a => comparableTo w false n a.type
    | _ => false

/-- The types that an element of a constraint allows, looking into it to a depth. -/
def typeSetTo (w : TypeTable) : Nat → Ty → TypeSet
  | 0, _ => {}
  | n + 1, t =>
    let meet (a b : TypeSet) : TypeSet :=
      let both := w.meetTerms a.terms b.terms
      match a.comparable || b.comparable, both with
      | true, some ts => { terms := some (ts.filter fun a => comparableTo w false n a.type) }
      | comparable, both => { terms := both, comparable }
    match t.unrename with
    | .union ts =>
      let add (all : Option (List Term)) (a : Term) : Option (List Term) :=
        match w.under a.type with
        | .iface .. => w.joinTerms all (typeSetTo w n a.type).terms
        | .basic .invalid => all
        | u => if a.tilde && !a.type.identical u then all else w.joinTerms all (some [a])
      { terms := ts.foldl add (some []) }
    | t' =>
      let asks : Bool := match t' with
        | .named id _ => id = comparableId
        | _ => false
      if asks then { comparable := true }
      else
        match w.under t' with
        | .iface _ es => es.foldl (fun s e => meet s (typeSetTo w n e)) {}
        | .basic .invalid => {}
        | _ => { terms := some [.mk false t] }

end

/-- Whether values of a type can be compared. -/
def isComparable (w : TypeTable) (t : Ty) : Bool := w.comparableTo true depth t

/-- Whether values of a type can always be compared, also those of interfaces in it. -/
def isStrictlyComparable (w : TypeTable) (t : Ty) : Bool := w.comparableTo false depth t

/-- **The types that a constraint allows.** -/
def typeSet (w : TypeTable) (t : Ty) : TypeSet := w.typeSetTo depth t

/-- The terms of a type parameter, if it has any. -/
def termsOf? (w : TypeTable) (t : Ty) : Option (List Term) := (w.typeSet t).specific?

/-- **The types a value of a type can have**, each with the type under it: the type itself,
or for a type parameter those of its terms. If its terms are not known there is one
unknown type. -/
def specific (w : TypeTable) (t : Ty) : List (Option (Ty × Ty)) :=
  if t.isParam then
    match w.termsOf? t with
    | some ts => ts.map fun a => some (a.type, if a.tilde then a.type.unrename else w.under a.type)
    | none => [none]
  else [some (t, w.under t)]

/-- Whether the types under all types of a type have a property. -/
def underIs (w : TypeTable) (p : Ty → Bool) (t : Ty) : Bool :=
  (w.specific t).all fun u =>
    match u with
    | some (_, u) => p u
    | none => false

/-- Why the types of a type parameter have nothing in common. -/
inductive Discord where
  /-- They are not known. -/
  | unspecific
  /-- The types under two of them differ. -/
  | different (a b : Ty)
  /-- Two channels have different elements. -/
  | elements (a b : Ty)
  /-- Two channels have opposite directions. -/
  | directions (a b : Ty)
  /-- A reason of the caller. -/
  | refused (why : Bytes)

/-- One type more beside the common one. -/
def agree (found : Ty × Ty) (t u : Ty) : Except Discord (Ty × Ty) :=
  match found.2, u with
  | .chan d a, .chan d' b =>
    if !a.identical b then .error (.elements found.1 t)
    else if d = d' then .ok found
    else if d = .both then .ok (t, u)
    else if d' ≠ .both then .error (.directions found.1 t)
    else .ok found
  | v, u => if v.identical u then .ok found else .error (.different found.1 t)

/-- **The type under all types that a value of a type can have**, if there is one. A
condition refuses some of them. -/
def commonUnder (w : TypeTable) (refuse : Option (Ty × Ty) → Option Bytes) (t : Ty) :
    Except Discord Ty := do
  let found ← (w.specific t).foldlM (fun (found : Option (Ty × Ty)) part =>
    match refuse part with
    | some why => .error (.refused why)
    | none =>
      match part, found with
      | none, _ => .error .unspecific
      | some part, none => .ok (some part)
      | some (t, u), some found => (agree found t u).map some) none
  match found with
  | some (_, u) => return u
  | none => .error .unspecific

/-- The type under all types that a value of a type can have, if there is one. -/
def common? (w : TypeTable) (t : Ty) : Option Ty :=
  match w.commonUnder (fun _ => none) t with
  | .ok u => some u
  | .error _ => none

end TypeTable

end Stencil.Host
